import Mathlib.Data.List.Basic
import Mathlib.Data.List.TakeWhile
import SandboxPods.Number.Decimal

/-!
# The spelling of numerals

Reading a numeral cuts a text from the left, as far as digits go. The spelling says the same
without cuts: a sign or none, and then a word, or digits with at most one point and an exponent
or none. What is read is exactly what is spelled so. A numeral can only end in a digit, a point
or the last letter of a word, and before an n there is an a.
-/
namespace SandboxPods.Decimal
variable {cs sign digits rest front : List Char} {c : Char}

/-! ## Spelling -/

inductive IsSign : List Char → Prop
  | none : IsSign []
  | plus : IsSign ['+']
  | minus : IsSign ['-']

def AreDigits (cs : List Char) : Prop := ∀ c ∈ cs, isDigit c = true

/-- Digits with at most one point and at least one digit. -/
inductive IsMantissa : List Char → Prop
  | whole {whole : List Char} (given : whole ≠ []) (left : AreDigits whole) : IsMantissa whole
  | pointed {whole fraction : List Char} (given : whole ≠ [] ∨ fraction ≠ [])
      (left : AreDigits whole) (right : AreDigits fraction) :
      IsMantissa (whole ++ '.' :: fraction)

inductive IsExponent : List Char → Prop
  | none : IsExponent []
  | given {e : Char} {sign digits : List Char} (letter : e = 'e' ∨ e = 'E') (signed : IsSign sign)
      (given : digits ≠ []) (all : AreDigits digits) : IsExponent (e :: (sign ++ digits))

def words : List String := ["inf", "infinity", "nan"]

/-- A word in letters of either case, or a decimal. -/
inductive IsUnsigned : List Char → Prop
  | word {cs : List Char} (listed : String.ofList (cs.map Char.toLower) ∈ words) : IsUnsigned cs
  | decimal {mantissa exponent : List Char} (left : IsMantissa mantissa)
      (right : IsExponent exponent) : IsUnsigned (mantissa ++ exponent)

inductive IsNumeral : List Char → Prop
  | signed {sign rest : List Char} (before : IsSign sign) (after : IsUnsigned rest) :
      IsNumeral (sign ++ rest)

/-! ## Signs -/

/-- The text does not begin with a sign. -/
def Bare (cs : List Char) : Prop := ∀ c, cs.head? = some c → c ≠ '+' ∧ c ≠ '-'

theorem exists_sign (cs : List Char) : ∃ sign, IsSign sign ∧ cs = sign ++ (takeSign cs).2 := by
  unfold takeSign
  split
  · exact ⟨_, .minus, rfl⟩
  · exact ⟨_, .plus, rfl⟩
  · exact ⟨_, .none, rfl⟩

theorem takeSign_append (signed : IsSign sign) (bare : Bare rest) :
    (takeSign (sign ++ rest)).2 = rest := by
  cases signed with
  | plus => rfl
  | minus => rfl
  | none =>
      unfold takeSign
      split
      · next same => exact absurd rfl (bare '-' (congrArg List.head? same)).2
      · next same => exact absurd rfl (bare '+' (congrArg List.head? same)).1
      · rfl

theorem ne_sign_of_isDigit (h : isDigit c = true) : c ≠ '+' ∧ c ≠ '-' := by
  constructor
  · intro plus
    subst plus
    cases h
  · intro minus
    subst minus
    cases h

theorem AreDigits.bare (h : AreDigits cs) : Bare cs :=
  fun c first => ne_sign_of_isDigit (h c (List.mem_of_head? first))

/-! ## Exponents -/

theorem isSome_exponent?_iff : (exponent? cs).isSome = true ↔ IsExponent cs := by
  constructor
  · intro read
    unfold exponent? at read
    split at read
    · exact .none
    · next e rest =>
      split at read
      · next letter =>
        obtain ⟨sign, signed, same⟩ := exists_sign rest
        dsimp only at read
        split at read
        · next digits =>
          rw [same]
          exact .given letter signed digits.1 (List.all_eq_true.1 digits.2)
        · cases read
      · cases read
  · intro spelled
    cases spelled with
    | none => rfl
    | given letter signed given all =>
        rw [exponent?, if_pos letter]
        dsimp only
        rw [takeSign_append signed all.bare, if_pos ⟨given, List.all_eq_true.2 all⟩]
        rfl

/-- The text does not go on with a digit. -/
def Stops (cs : List Char) : Prop := ∀ c, cs.head? = some c → isDigit c = false

theorem IsExponent.stops (h : IsExponent cs) : Stops cs := by
  intro c first
  cases h with
  | none => cases first
  | given letter =>
      cases first
      rcases letter with rfl | rfl <;> rfl

theorem IsExponent.ne_point (h : IsExponent cs) : cs.head? ≠ some '.' := by
  cases h with
  | none => nofun
  | given letter =>
      intro first
      cases first
      rcases letter with point | point <;> cases point

/-! ## Digits and a point -/

theorem takeWhile_digits (all : AreDigits digits) (stops : Stops rest) :
    (digits ++ rest).takeWhile isDigit = digits := by
  rw [List.takeWhile_append_of_pos all, List.append_right_eq_self]
  cases rest with
  | nil => rfl
  | cons c rest => exact List.takeWhile_cons_of_neg (by simp [stops c rfl])

theorem dropWhile_digits (all : AreDigits digits) (stops : Stops rest) :
    (digits ++ rest).dropWhile isDigit = rest := by
  rw [List.dropWhile_append_of_pos all]
  cases rest with
  | nil => rfl
  | cons c rest => exact List.dropWhile_cons_of_neg (by simp [stops c rfl])

theorem areDigits_takeWhile (cs : List Char) : AreDigits (cs.takeWhile isDigit) :=
  fun _ mem => List.mem_takeWhile_imp mem

theorem stops_dropWhile (cs : List Char) : Stops (cs.dropWhile isDigit) := by
  intro c first
  have stopped := List.head?_dropWhile_not isDigit cs
  rw [first] at stopped
  simpa using stopped

theorem stops_point (rest : List Char) : Stops ('.' :: rest) := by
  intro c first
  cases first
  rfl

/-- A text cut where its first digits end, and again behind a point. -/
inductive CutAs : List Char → Prop
  | whole {whole rest : List Char} (left : AreDigits whole) (stops : Stops rest)
      (closed : rest.head? ≠ some '.') : CutAs (whole ++ rest)
  | pointed {whole fraction rest : List Char} (left : AreDigits whole)
      (right : AreDigits fraction) (stops : Stops rest) :
      CutAs (whole ++ '.' :: (fraction ++ rest))

theorem cutAs (cs : List Char) : CutAs cs := by
  have parts : cs.takeWhile isDigit ++ cs.dropWhile isDigit = cs :=
    List.takeWhile_append_dropWhile
  rw [← parts]
  by_cases point : (cs.dropWhile isDigit).head? = some '.'
  · obtain ⟨more, behind⟩ := List.head?_eq_some_iff.1 point
    have parts' : more.takeWhile isDigit ++ more.dropWhile isDigit = more :=
      List.takeWhile_append_dropWhile
    rw [behind, ← parts']
    exact .pointed (areDigits_takeWhile cs) (areDigits_takeWhile more) (stops_dropWhile more)
  · exact .whole (areDigits_takeWhile cs) (stops_dropWhile cs) point

/-- The digits behind a point if one comes next, and what follows. -/
def behindPoint (cs : List Char) : List Char × List Char :=
  match cs with
  | '.' :: more => (more.takeWhile isDigit, more.dropWhile isDigit)
  | _ => ([], cs)

theorem behindPoint_closed (closed : rest.head? ≠ some '.') : behindPoint rest = ([], rest) := by
  unfold behindPoint
  split
  · exact absurd rfl closed
  · rfl

theorem finite?_parts {parts : List Char × List Char} (left : cs.takeWhile isDigit = digits)
    (right : behindPoint (cs.dropWhile isDigit) = parts) : (finite? cs).isSome = true ↔
      (digits ≠ [] ∨ parts.1 ≠ []) ∧ (exponent? parts.2).isSome = true := by
  subst left right
  have eq : finite? cs =
      let parts := behindPoint (cs.dropWhile isDigit)
      if cs.takeWhile isDigit = [] ∧ parts.1 = [] then none
      else (exponent? parts.2).map fun e =>
        .finite (natOfDigits (cs.takeWhile isDigit ++ parts.1)) (e - parts.1.length) := rfl
  rw [eq]
  dsimp only
  split
  · next empty => simp [empty]
  · next given =>
    rw [Option.isSome_map]
    exact (and_iff_right (Decidable.not_and_iff_not_or_not.1 given)).symm

theorem finite?_whole (left : AreDigits digits) (stops : Stops rest)
    (closed : rest.head? ≠ some '.') : (finite? (digits ++ rest)).isSome = true ↔
      digits ≠ [] ∧ (exponent? rest).isSome = true := by
  have right : behindPoint ((digits ++ rest).dropWhile isDigit) = ([], rest) := by
    rw [dropWhile_digits left stops, behindPoint_closed closed]
  rw [finite?_parts (takeWhile_digits left stops) right]
  simp only [ne_eq, not_true_eq_false, or_false]

theorem finite?_pointed {fraction : List Char} (left : AreDigits digits)
    (right : AreDigits fraction) (stops : Stops rest) :
    (finite? (digits ++ '.' :: (fraction ++ rest))).isSome = true ↔
      (digits ≠ [] ∨ fraction ≠ []) ∧ (exponent? rest).isSome = true := by
  have behind : behindPoint ((digits ++ '.' :: (fraction ++ rest)).dropWhile isDigit) =
      (fraction, rest) := by
    rw [dropWhile_digits left (stops_point _), behindPoint, takeWhile_digits right stops,
      dropWhile_digits right stops]
  rw [finite?_parts (takeWhile_digits left (stops_point _)) behind]

theorem isSome_finite?_iff : (finite? cs).isSome = true ↔
    ∃ mantissa exponent, IsMantissa mantissa ∧ IsExponent exponent ∧
      cs = mantissa ++ exponent := by
  constructor
  · intro read
    cases cutAs cs with
    | whole left stops closed =>
        obtain ⟨given, exponent⟩ := (finite?_whole left stops closed).1 read
        exact ⟨_, _, .whole given left, isSome_exponent?_iff.1 exponent, rfl⟩
    | pointed left right stops =>
        obtain ⟨given, exponent⟩ := (finite?_pointed left right stops).1 read
        exact ⟨_, _, .pointed given left right, isSome_exponent?_iff.1 exponent, by simp⟩
  · intro spelled
    obtain ⟨mantissa, exponent, spells, right, rfl⟩ := spelled
    have read := isSome_exponent?_iff.2 right
    cases spells with
    | whole given left => exact (finite?_whole left right.stops right.ne_point).2 ⟨given, read⟩
    | pointed given left behind =>
        rw [List.append_assoc, List.cons_append]
        exact (finite?_pointed left behind right.stops).2 ⟨given, read⟩

/-! ## Words -/

theorem lowerAscii_eq (c : Char) : lowerAscii c = c.toLower := by
  by_cases capital : c.val ≥ 'A'.val ∧ c.val ≤ 'Z'.val
  · have low : c.toNat ≤ 90 := UInt32.le_iff_toNat_le.1 capital.2
    have valid : (c.toNat + 32).isValidChar := .inl (by omega)
    have ascii : lowerAscii c = Char.ofNat (c.toNat + 32) := if_pos capital
    have lower : c.toLower.toNat = (c.val + ('a'.val - 'A'.val)).toNat :=
      congrArg Char.toNat (dif_pos capital)
    have sum : (c.val + ('a'.val - 'A'.val)).toNat = (c.toNat + 32) % 2 ^ 32 :=
      UInt32.toNat_add _ _
    rw [ascii, ← Char.toNat_inj, lower, sum, Nat.mod_eq_of_lt (by omega), Char.ofNat,
      dif_pos valid]
    rfl
  · have ascii : lowerAscii c = c := if_neg capital
    have lower : c.toLower = c := dif_neg capital
    rw [ascii, lower]

theorem toLower_of_isDigit (h : isDigit c = true) : c.toLower = c := by
  have high : c ≤ '9' := by
    simp only [isDigit, Bool.and_eq_true, decide_eq_true_eq] at h
    exact h.2
  have small : ¬ (c.val ≥ 'A'.val ∧ c.val ≤ 'Z'.val) := fun capital =>
    absurd (UInt32.le_trans capital.1 high) (by decide)
  exact dif_neg small

theorem mem_words : String.ofList cs ∈ words ↔ cs = ['i', 'n', 'f'] ∨
    cs = ['i', 'n', 'f', 'i', 'n', 'i', 't', 'y'] ∨ cs = ['n', 'a', 'n'] := by
  simp only [words, List.mem_cons, List.not_mem_nil, or_false, ← String.toList_inj,
    String.toList_ofList]
  rfl

theorem isSome_word?_iff :
    (word? cs).isSome = true ↔ String.ofList (cs.map Char.toLower) ∈ words := by
  have lower : lowerAscii = Char.toLower := funext lowerAscii_eq
  unfold word?
  rw [lower]
  simp only [words, List.mem_cons, List.not_mem_nil, or_false]
  split
  · next infinite => rcases infinite with word | word <;> simp [word]
  · next finite =>
    split
    · next word => simp [word]
    · next other => simp [not_or.1 finite, other]

/-! ## Numerals -/

theorem IsMantissa.first (h : IsMantissa cs) :
    ∃ c rest, cs = c :: rest ∧ (isDigit c = true ∨ c = '.') := by
  cases h with
  | whole given left =>
      obtain ⟨c, rest, rfl⟩ := List.exists_cons_of_ne_nil given
      exact ⟨c, rest, rfl, .inl (left c List.mem_cons_self)⟩
  | @pointed whole fraction _ left =>
      cases whole with
      | nil => exact ⟨'.', fraction, rfl, .inr rfl⟩
      | cons c whole => exact ⟨c, _, rfl, .inl (left c List.mem_cons_self)⟩

theorem IsUnsigned.bare (h : IsUnsigned cs) : Bare cs := by
  intro c first
  cases h with
  | decimal left =>
      obtain ⟨d, rest, rfl, start⟩ := left.first
      cases first
      rcases start with digit | rfl
      · exact ne_sign_of_isDigit digit
      · decide
  | word listed =>
      obtain ⟨rest, rfl⟩ := List.head?_eq_some_iff.1 first
      rw [List.map_cons, mem_words] at listed
      have letter : c.toLower = 'i' ∨ c.toLower = 'n' := by
        rcases listed with word | word | word
        · exact .inl (List.cons.inj word).1
        · exact .inl (List.cons.inj word).1
        · exact .inr (List.cons.inj word).1
      constructor
      · intro plus
        subst plus
        exact absurd letter (by decide)
      · intro minus
        subst minus
        exact absurd letter (by decide)

theorem isSome_read?_iff : (read? cs).isSome = true ↔ IsNumeral cs := by
  have unsigned (rest : List Char) :
      ((word? rest).or (finite? rest)).isSome = true ↔ IsUnsigned rest := by
    rw [Option.isSome_or, Bool.or_eq_true, isSome_word?_iff, isSome_finite?_iff]
    constructor
    · intro read
      rcases read with word | ⟨mantissa, exponent, left, right, rfl⟩
      · exact .word word
      · exact .decimal left right
    · intro spelled
      cases spelled with
      | word listed => exact .inl listed
      | decimal left right => exact .inr ⟨_, _, left, right, rfl⟩
  have eq : (read? cs).isSome =
      ((word? (takeSign cs).2).or (finite? (takeSign cs).2)).isSome := Option.isSome_map
  rw [eq, unsigned]
  constructor
  · intro spelled
    obtain ⟨sign, signed, same⟩ := exists_sign cs
    rw [same]
    exact .signed signed spelled
  · intro spelled
    cases spelled with
    | signed before after =>
        rw [takeSign_append before after.bare]
        exact after

theorem isSome_toFloat?_iff : (toFloat? cs).isSome = true ↔ IsNumeral cs := by
  rw [toFloat?, Option.isSome_map, isSome_read?_iff]

/-! ## Endings -/

/-- The characters that can end a numeral, but for an n. -/
def isClosing (c : Char) : Bool :=
  isDigit c || c == '.' || c.toLower == 'f' || c.toLower == 'y'

/-- How a text ends that may be a numeral. -/
inductive Ending : List Char → Prop
  | closing (front : List Char) {c : Char} (last : isClosing c = true) : Ending (front ++ [c])
  | nan (front : List Char) {a n : Char} (before : a.toLower = 'a') (last : n.toLower = 'n') :
      Ending (front ++ [a, n])

theorem Ending.prepend (h : Ending cs) (front : List Char) : Ending (front ++ cs) := by
  cases h with
  | closing middle last =>
      rw [← List.append_assoc]
      exact .closing _ last
  | nan middle before last =>
      rw [← List.append_assoc]
      exact .nan _ before last

theorem AreDigits.ending (all : AreDigits cs) (given : cs ≠ []) : Ending cs := by
  obtain ⟨front, c, rfl⟩ := (List.eq_nil_or_concat' cs).resolve_left given
  exact .closing front (by simp [isClosing, all c (by simp)])

theorem IsMantissa.ending (h : IsMantissa cs) : Ending cs := by
  cases h with
  | whole given left => exact left.ending given
  | @pointed whole fraction _ _ right =>
      by_cases none : fraction = []
      · rw [none]
        exact .closing whole rfl
      · rw [List.append_cons]
        exact (right.ending none).prepend _

theorem ending_of_map (before : List Char) {l : Char}
    (h : cs.map Char.toLower = before ++ [l]) (last : l = 'f' ∨ l = 'y') : Ending cs := by
  obtain ⟨front, back, rfl, -, same⟩ := List.map_eq_append_iff.1 h
  obtain ⟨c, rfl, rfl⟩ := List.map_eq_singleton_iff.1 same
  exact .closing front (by simp [isClosing, or_assoc, last])

theorem IsUnsigned.ending (h : IsUnsigned cs) : Ending cs := by
  cases h with
  | word listed =>
      rw [mem_words] at listed
      rcases listed with word | word | word
      · exact ending_of_map ['i', 'n'] word (.inl rfl)
      · exact ending_of_map ['i', 'n', 'f', 'i', 'n', 'i', 't'] word (.inr rfl)
      · have word : cs.map Char.toLower = ['n'] ++ ['a', 'n'] := word
        obtain ⟨front, back, rfl, -, same⟩ := List.map_eq_append_iff.1 word
        obtain ⟨a, rest, rfl, before, tail⟩ := List.map_eq_cons_iff.1 same
        obtain ⟨n, rfl, last⟩ := List.map_eq_singleton_iff.1 tail
        exact .nan front before last
  | decimal left right =>
      cases right with
      | none =>
          rw [List.append_nil]
          exact left.ending
      | given letter signed given all =>
          rw [List.append_cons, ← List.append_assoc]
          exact (all.ending given).prepend _

theorem IsNumeral.ending (h : IsNumeral cs) : Ending cs := by
  cases h with
  | signed before after => exact after.ending.prepend _

theorem Ending.last (h : Ending (front ++ [c])) : isClosing c = true ∨
    c.toLower = 'n' ∧ ∃ before a, front = before ++ [a] ∧ a.toLower = 'a' := by
  -- The text is made a variable, since an ending is cut at other places than its last character.
  generalize whole : front ++ [c] = cs at h
  cases h with
  | closing middle last =>
      obtain ⟨-, same⟩ := List.append_inj' whole rfl
      cases same
      exact .inl last
  | @nan middle a n before last =>
      rw [List.append_cons middle a [n]] at whole
      obtain ⟨rfl, same⟩ := List.append_inj' whole rfl
      cases same
      exact .inr ⟨last, middle, a, rfl, before⟩

/-- No numeral ends in an a. -/
theorem not_ending_a (h : c.toLower = 'a') : ¬ Ending (front ++ [c]) := by
  intro ending
  rcases ending.last with closing | ⟨n, -⟩
  · have digit : isDigit c = true ∨ c = '.' := by simpa [isClosing, h] using closing
    rcases digit with digit | rfl
    · rw [toLower_of_isDigit digit] at h
      subst h
      cases digit
    · cases h
  · rw [h] at n
    cases n

end SandboxPods.Decimal

import Authorization.Text.Uuid
import Mathlib.Algebra.Order.Ring.Int

/-!
# Canonical identifiers

The canonical text of an identifier is read as the number that it is written for, so a canonical text is
its own canonical text: an identifier that a table keeps is found again under itself.
-/

namespace Authorization.Text.Uuid

/-! ## Texts that lose nothing when they are read -/

theorem trimBoth_eq_self {drop : Char → Bool} {text : List Char}
    (kept : ∀ c ∈ text, drop c = false) : trimBoth drop text = text := by
  have keepsAll (chars : List Char) (keeps : ∀ c ∈ chars, drop c = false) :
      chars.dropWhile drop = chars := by
    cases chars with
    | nil => rfl
    | cons first rest => rw [List.dropWhile_cons_of_neg (by simp [keeps first (.head _)])]
  rw [trimBoth, trimRight, trimLeft, keepsAll text kept,
    keepsAll text.reverse fun c member => kept c (List.mem_reverse.1 member), List.reverse_reverse]

/-- A word with a mark that the text does not hold is not in the text. -/
theorem dropWord_eq_self (mark : Char) {word text : List Char} (inWord : mark ∈ word)
    (notInText : mark ∉ text) (steps : Nat) : dropWord word steps text = text := by
  induction steps generalizing text with
  | zero => rfl
  | succ steps inductionHypothesis =>
      cases text with
      | nil => rfl
      | cons c rest =>
          have apart : word.isPrefixOf (c :: rest) = false := by
            rw [Bool.eq_false_iff]
            intro isPrefix
            exact notInText ((List.isPrefixOf_iff_prefix.1 isPrefix).subset inWord)
          rw [dropWord, apart, if_neg Bool.false_ne_true,
            inductionHypothesis fun member => notInText (.tail _ member)]

/-! ## Digits -/

/-- The digits of base sixteen. -/
def hexChars : List Char :=
  "0123456789abcdef".toList

theorem hexChars_eq : hexChars = (List.finRange 16).map fun (k : Fin 16) => hexDigit k := by
  decide

theorem hexDigit_mem (k : Fin 16) : hexDigit k ∈ hexChars := by
  rw [hexChars_eq]
  exact List.mem_map.2 ⟨k, List.mem_finRange k, rfl⟩

/-- What holds of the sixteen digits holds of their characters. -/
theorem forall_mem_hexChars {holds : Char → Prop} (each : ∀ k : Fin 16, holds (hexDigit k)) :
    ∀ c ∈ hexChars, holds c := by
  rw [hexChars_eq]
  exact List.forall_mem_map.2 fun k _ => each k

theorem digitValue?_hexDigit (k : Fin 16) : Number.digitValue? (hexDigit k) = some k.val := by
  revert k
  decide

/-- A digit is no white space, brace, hyphen, sign, underscore or colon, and is a plain character. -/
theorem hexChars_plain : ∀ c ∈ hexChars,
    isBlank c = false ∧ isBrace c = false ∧ c ≠ '-' ∧ c ≠ '+' ∧ c ≠ '_' ∧ c ≠ ':' ∧
      Number.isPadding c = false ∧ Number.plainDigit c = c :=
  forall_mem_hexChars (by decide)

theorem mem_hexDigits {n : Nat} {c : Char} (member : c ∈ hexDigits n) : c ∈ hexChars := by
  obtain ⟨i, _, rfl⟩ := List.mem_map.1 member
  exact hexDigit_mem ⟨n / Nat.pow 16 (31 - i) % 16, Nat.mod_lt _ (by decide)⟩

/-- Written digits are read one after the other. -/
theorem readDigits?_map_hexDigit {digits : List Nat} (small : ∀ k ∈ digits, k < 16) (count value : Nat) :
    Number.readDigits? 16 true count value (digits.map hexDigit) =
      some (count + digits.length, digits.foldl (fun value k => value * 16 + k) value) := by
  induction digits generalizing count value with
  | nil => rfl
  | cons k rest inductionHypothesis =>
      have bound : k < 16 := small k (.head _)
      have notMark : hexDigit k ≠ '_' := (hexChars_plain _ (hexDigit_mem ⟨k, bound⟩)).2.2.2.2.1
      rw [List.map_cons, Number.readDigits?, if_neg notMark, digitValue?_hexDigit ⟨k, bound⟩]
      dsimp only
      rw [if_pos bound, inductionHypothesis fun other member => small other (.tail _ member),
        List.length_cons, List.foldl_cons, Nat.add_right_comm, Nat.add_assoc]

/-- The digits of a number give the number. -/
theorem foldl_digits (count n : Nat) :
    ((List.range count).map fun i => n / 16 ^ (count - 1 - i) % 16).foldl
      (fun value k => value * 16 + k) 0 = n % 16 ^ count := by
  induction count generalizing n with
  | zero => simp [Nat.mod_one]
  | succ count inductionHypothesis =>
      have leading : ((List.range count).map fun i => n / 16 ^ (count + 1 - 1 - i) % 16) =
          (List.range count).map fun i => n / 16 / 16 ^ (count - 1 - i) % 16 := by
        refine List.map_congr_left fun i member => ?_
        have below := List.mem_range.1 member
        rw [Nat.div_div_eq_div_mul, ← Nat.pow_succ']
        congr 3
        omega
      rw [List.range_succ, List.map_append, List.foldl_append, leading, inductionHypothesis]
      simp only [List.map_cons, List.map_nil, List.foldl_cons, List.foldl_nil, Nat.add_sub_cancel,
        Nat.sub_self, Nat.pow_zero, Nat.div_one]
      rw [Nat.pow_succ', Nat.mod_mul]
      omega

/-- No underscore stands before the first digit of a number. -/
theorem readDigits?_false_eq_true {base : Nat} {text : List Char} (nonEmpty : text ≠ [])
    (noMark : ∀ c ∈ text, c ≠ '_') (count value : Nat) :
    Number.readDigits? base false count value text =
      Number.readDigits? base true count value text := by
  cases text with
  | nil => exact absurd rfl nonEmpty
  | cons first rest =>
      rw [Number.readDigits?, Number.readDigits?, if_neg (noMark first (.head _)),
        if_neg (noMark first (.head _))]

theorem hexDigits_ne_nil (n : Nat) : hexDigits n ≠ [] := by
  intro empty
  have length : (hexDigits n).length = 32 := by
    rw [hexDigits, List.length_map, List.length_range]
  rw [empty] at length
  cases length

theorem hexDigits_eq (n : Nat) :
    hexDigits n = ((List.range 32).map fun i => n / 16 ^ (32 - 1 - i) % 16).map hexDigit := by
  rw [List.map_map]
  rfl

theorem takeSign_of_digits {text : List Char} (digits : ∀ c ∈ text, c ∈ hexChars) :
    Number.takeSign text = (false, text) := by
  unfold Number.takeSign
  split
  · have plain := hexChars_plain '-' (digits '-' (.head _))
    exact absurd rfl plain.2.2.1
  · have plain := hexChars_plain '+' (digits '+' (.head _))
    exact absurd rfl plain.2.2.2.1
  · rfl

/-- The only digit that is also the mark of a base is the one of base two. -/
theorem baseOfMark?_of_digit : ∀ c ∈ hexChars,
    Number.baseOfMark? c = none ∨ Number.baseOfMark? c = some 2 :=
  forall_mem_hexChars (by decide)

theorem takeBase_of_digits {text : List Char} (digits : ∀ c ∈ text, c ∈ hexChars) :
    Number.takeBase 16 text = (16, text, false) := by
  unfold Number.takeBase
  split
  · rename_i mark rest
    rcases baseOfMark?_of_digit mark (digits mark (.tail _ (.head _))) with isMark | isMark <;>
      simp [isMark]
  · rfl

/-- A number below `2 ^ 128` is read back from its digits. -/
theorem readInt?_hexDigits {n : Nat} (bound : n < 2 ^ 128) :
    Number.readInt? 16 (String.ofList (hexDigits n)) = some (n : Int) := by
  have isCore : Number.core (String.ofList (hexDigits n)) = hexDigits n := by
    rw [Number.core, String.toList_ofList,
      trimBoth_eq_self fun c member => (hexChars_plain c (mem_hexDigits member)).2.2.2.2.2.2.1]
    have isPlain : (hexDigits n).map Number.plainDigit = (hexDigits n).map id :=
      List.map_congr_left fun c member => (hexChars_plain c (mem_hexDigits member)).2.2.2.2.2.2.2
    rw [isPlain, List.map_id]
  have isRead : Number.readDigits? 16 false 0 0 (hexDigits n) = some (32, n) := by
    have small : ∀ k ∈ (List.range 32).map fun i => n / 16 ^ (32 - 1 - i) % 16, k < 16 := by
      intro k member
      obtain ⟨i, _, rfl⟩ := List.mem_map.1 member
      exact Nat.mod_lt _ (by decide)
    rw [readDigits?_false_eq_true (hexDigits_ne_nil n) fun c member =>
        (hexChars_plain c (mem_hexDigits member)).2.2.2.2.1,
      hexDigits_eq, readDigits?_map_hexDigit small, foldl_digits,
      Nat.mod_eq_of_lt (bound.trans_eq (Nat.pow_mul 2 4 32))]
    rfl
  have members : ∀ c ∈ hexDigits n, c ∈ hexChars := fun c member => mem_hexDigits member
  unfold Number.readInt?
  rw [isCore, takeSign_of_digits members]
  dsimp only
  rw [takeBase_of_digits members]
  dsimp only
  rw [isRead]
  rfl

/-! ## The canonical text -/

theorem length_hexDigits (n : Nat) : (hexDigits n).length = 32 := by
  rw [hexDigits, List.length_map, List.length_range]

/-- Some digits of a number in a row. -/
def digitGroup (n start count : Nat) : List Char :=
  ((hexDigits n).drop start).take count

theorem mem_digitGroup {n start count : Nat} {c : Char} (member : c ∈ digitGroup n start count) :
    c ∈ hexChars :=
  mem_hexDigits (List.mem_of_mem_drop (List.mem_of_mem_take member))

theorem toList_text (n : Nat) : (text n).toList =
    digitGroup n 0 8 ++ '-' :: (digitGroup n 8 4 ++ '-' :: (digitGroup n 12 4 ++ '-' ::
      (digitGroup n 16 4 ++ '-' :: digitGroup n 20 12))) :=
  String.toList_ofList

theorem mem_text {n : Nat} {c : Char} (member : c ∈ (text n).toList) : c ∈ hexChars ∨ c = '-' := by
  rw [toList_text] at member
  simp only [List.mem_append, List.mem_cons] at member
  rcases member with digit | hyphen | digit | hyphen | digit | hyphen | digit | hyphen | digit
  all_goals first | exact .inl (mem_digitGroup digit) | exact .inr hyphen

theorem append_digitGroups (n : Nat) :
    digitGroup n 0 8 ++ (digitGroup n 8 4 ++ (digitGroup n 12 4 ++
      (digitGroup n 16 4 ++ digitGroup n 20 12))) = hexDigits n := by
  have join (start count : Nat) :
      digitGroup n start count ++ (hexDigits n).drop (start + count) = (hexDigits n).drop start := by
    rw [digitGroup, ← List.drop_drop, List.take_append_drop]
  have last : digitGroup n 20 12 = (hexDigits n).drop 20 := by
    rw [digitGroup, List.take_of_length_le (by rw [List.length_drop, length_hexDigits])]
  rw [last, join 16 4, join 12 4, join 8 4, join 0 8, List.drop_zero]

theorem filter_text (n : Nat) : (text n).toList.filter (· ≠ '-') = hexDigits n := by
  have kept (start count : Nat) :
      (digitGroup n start count).filter (· ≠ '-') = digitGroup n start count :=
    List.filter_eq_self.2 fun c member =>
      decide_eq_true (hexChars_plain c (mem_digitGroup member)).2.2.1
  have dropped (rest : List Char) : ('-' :: rest).filter (· ≠ '-') = rest.filter (· ≠ '-') :=
    List.filter_cons_of_neg (by decide)
  rw [toList_text]
  simp only [List.filter_append, kept, dropped]
  exact append_digitGroups n

/-- A canonical text is read as its number. -/
theorem read?_text {n : Nat} (bound : n < 2 ^ 128) : read? (text n) = some n := by
  have blank : ∀ c ∈ (text n).toList, isBlank c = false := by
    intro c member
    rcases mem_text member with digit | rfl
    · exact (hexChars_plain c digit).1
    · decide
  have brace : ∀ c ∈ (text n).toList, isBrace c = false := by
    intro c member
    rcases mem_text member with digit | rfl
    · exact (hexChars_plain c digit).2.1
    · decide
  have colon : ':' ∉ (text n).toList := by
    intro member
    rcases mem_text member with digit | equality
    · exact (hexChars_plain ':' digit).2.2.2.2.2.1 rfl
    · cases equality
  have trimmed : (trim (text n)).toList = (text n).toList := by
    rw [trim, String.toList_ofList, trimBoth_eq_self blank]
  unfold read?
  dsimp only
  rw [trimmed, dropWord_eq_self ':' (by decide) colon,
    dropWord_eq_self ':' (by decide) colon, trimBoth_eq_self brace, filter_text,
    length_hexDigits, if_neg (by decide), readInt?_hexDigits bound, Option.bind_some,
    if_pos ⟨Int.natCast_nonneg n, by exact_mod_cast bound⟩, Int.toNat_natCast]

/-- What is read from a spelling is a number of 128 bits. -/
theorem read?_lt {spelling : String} {n : Nat} (isRead : read? spelling = some n) :
    n < 2 ^ 128 := by
  unfold read? at isRead
  dsimp only at isRead
  split at isRead
  · cases isRead
  · obtain ⟨value, _, bounded⟩ := Option.bind_eq_some_iff.1 isRead
    split at bounded
    · rename_i bounds
      cases bounded
      have below : value < 2 ^ 128 := by exact_mod_cast bounds.2
      omega
    · cases bounded

/-- A canonical text is its own canonical text. -/
theorem canonical?_idempotent {spelling canonical : String}
    (isCanonical : canonical? spelling = some canonical) : canonical? canonical = some canonical := by
  obtain ⟨n, isRead, rfl⟩ := Option.map_eq_some_iff.1 isCanonical
  rw [canonical?, read?_text (read?_lt isRead), Option.map_some]

end Authorization.Text.Uuid

import Mathlib.Data.List.TakeDrop
import Reckoner.Proofs.Expr.Operand
import Reckoner.Proofs.Gate

/-!
# Digits and constants

The gate asks for a digit or for a constant that stands alone. A text whose tokens hold a number or
a constant has one: if there is no digit in it, no word runs into another one, so that its constants
stand between word boundaries.
-/

namespace Reckoner

namespace Text

/-! ## Word characters -/

theorem isWord_of_blank {c : Char} (blank : isBlank c = true) : isWord c = false := by
  by_cases ascii : c.toNat < 0x80
  · exact of_ascii (p := fun c => isBlank c = true → isWord c = false) (by decide) ascii blank
  · have apart : ∀ range ∈ blankRanges, ∀ other ∈ Table.word,
        range.2 < other.1 ∨ other.2 < range.1 := by decide +kernel
    rcases CodeRanges.contains_iff.mp blank with ⟨range, mem, low, high⟩
    rw [isWord, if_neg ascii, Bool.eq_false_iff]
    intro word
    rcases CodeRanges.contains_iff.mp word with ⟨other, inTable, first, last⟩
    have separate := apart range mem other inTable
    omega

theorem isWord_of_isAlphanum {c : Char} (alphanum : c.isAlphanum = true) : isWord c = true := by
  rw [isWord, if_pos (ascii_of_isAlphanum alphanum), alphanum]
  rfl

theorem isDecimalDigit_of_isDigit {c : Char} (digit : c.isDigit = true) :
    isDecimalDigit c = true := by
  rw [isDecimalDigit, if_pos (ascii_of_isDigit digit), digit]

theorem IsPlain.isWord_lowerChar {c : Char} (plain : IsPlain c) :
    isWord (lowerChar c) = isWord c := by
  rcases plain with ascii | blank
  · exact of_ascii (p := fun c => isWord (lowerChar c) = isWord c) (by decide) ascii
  · rw [lowerChar_of_blank blank]

theorem IsPlain.isDecimalDigit_lowerChar {c : Char} (plain : IsPlain c) :
    isDecimalDigit (lowerChar c) = isDecimalDigit c := by
  rcases plain with ascii | blank
  · exact of_ascii (p := fun c => isDecimalDigit (lowerChar c) = isDecimalDigit c) (by decide) ascii
  · rw [lowerChar_of_blank blank]

theorem isWordAt_map_lowerChar {side : Option Char} (plain : ∀ c ∈ side, IsPlain c) :
    isWordAt (side.map lowerChar) = isWordAt side := by
  cases side with
  | none => rfl
  | some c => exact (plain c rfl).isWord_lowerChar

theorem afterPattern?_map_lowerChar {pattern : Text} (ascii : ∀ l ∈ pattern, l.toNat < 0x80)
    (t : Text) :
    afterPattern? pattern (t.map lowerChar) = (afterPattern? pattern t).map (List.map lowerChar) := by
  induction pattern generalizing t with
  | nil => rw [afterPattern?_nil, afterPattern?_nil, Option.map_some]
  | cons l pattern ih =>
      have ⟨head, tail⟩ := List.forall_mem_cons.mp ascii
      cases t with
      | nil => rfl
      | cons c t =>
          have same : spells l (lowerChar c) = spells l c := by
            rw [Bool.eq_iff_iff, spells_iff head, spells_iff head, foldedChar_lowerChar_eq_iff head]
          rw [List.map_cons, afterPattern?, afterPattern?, same]
          split
          · exact ih tail t
          · rfl

theorem getLast?_cons_or (c : Char) (front : Text) (before : Option Char) :
    (c :: front).getLast?.or before = front.getLast?.or (some c) := by
  rw [List.getLast?_cons]
  cases front.getLast? <;> rfl

theorem occurs_append {p : Option Char → Text → Bool} {before : Option Char} {front t : Text}
    (found : occurs p (front.getLast?.or before) t = true) : occurs p before (front ++ t) = true := by
  induction front generalizing before with
  | nil => exact found
  | cons c front ih =>
      rw [List.cons_append, occurs_cons, Bool.or_eq_true]
      rw [getLast?_cons_or] at found
      exact .inr (ih found)

end Text

namespace Gate

open Text

/-! ## Letter case -/

theorem standsAlone_map_lowerChar {word t : Text} (ascii : ∀ l ∈ word, l.toNat < 0x80)
    (plain : ∀ c ∈ t, IsPlain c) {before other : Option Char}
    (same : isWordAt other = isWordAt before) :
    standsAlone word other (t.map lowerChar) = standsAlone word before t := by
  have front : isWordAt (t.map lowerChar).head? = isWordAt t.head? := by
    rw [List.head?_map]
    exact isWordAt_map_lowerChar fun c mem => plain c (List.mem_of_head? mem)
  have last : isWordAt ((t.map lowerChar).take word.length).getLast? =
      isWordAt (t.take word.length).getLast? := by
    rw [← List.map_take, List.getLast?_map]
    exact isWordAt_map_lowerChar fun c mem =>
      plain c (List.mem_of_mem_take (List.mem_of_getLast? mem))
  simp only [standsAlone, isBoundary, afterPattern?_map_lowerChar ascii, same, front, last]
  cases after : afterPattern? word t with
  | none => rfl
  | some rest =>
      rcases (afterPattern?_eq_some_iff ascii).mp after with ⟨spelled, rfl, _⟩
      have head : isWordAt (rest.map lowerChar).head? = isWordAt rest.head? := by
        rw [List.head?_map]
        exact isWordAt_map_lowerChar fun c mem =>
          plain c (List.mem_append_right _ (List.mem_of_head? mem))
      simp only [Option.map_some, Option.any_some, head]

theorem occurs_standsAlone_map_lowerChar {word t : Text} (ascii : ∀ l ∈ word, l.toNat < 0x80)
    (plain : ∀ c ∈ t, IsPlain c) {before other : Option Char}
    (same : isWordAt other = isWordAt before) :
    occurs (standsAlone word) other (t.map lowerChar) = occurs (standsAlone word) before t := by
  have here := standsAlone_map_lowerChar ascii plain same
  induction t generalizing before other with
  | nil => exact here
  | cons c t ih =>
      have ⟨head, tail⟩ := List.forall_mem_cons.mp plain
      have next : isWordAt (some (lowerChar c)) = isWordAt (some c) := head.isWord_lowerChar
      have after := ih tail next (standsAlone_map_lowerChar ascii tail next)
      rw [List.map_cons] at here
      rw [List.map_cons, occurs_cons, occurs_cons, after, here]

theorem hasDigitOrConstant_map_lowerChar {t : Text} (plain : ∀ c ∈ t, IsPlain c) :
    hasDigitOrConstant (t.map lowerChar) = hasDigitOrConstant t := by
  have digits : (t.map lowerChar).any isDecimalDigit = t.any isDecimalDigit := by
    rw [List.any_map, Bool.eq_iff_iff, List.any_eq_true, List.any_eq_true]
    refine exists_congr fun c => and_congr_right fun mem => ?_
    rw [Function.comp_apply, (plain c mem).isDecimalDigit_lowerChar]
  have pi : ∀ l ∈ ['p', 'i'], l.toNat < 0x80 := by decide
  have e : ∀ l ∈ ['e'], l.toNat < 0x80 := by decide
  rw [hasDigitOrConstant, hasDigitOrConstant, digits,
    occurs_standsAlone_map_lowerChar pi plain rfl, occurs_standsAlone_map_lowerChar e plain rfl]

/-! ## Operands in the text -/

theorem Constant.ascii_name (k : Constant) : ∀ l ∈ k.name, l.toNat < 0x80 := by
  cases k <;> decide

theorem Constant.name_of_ofWord? {word : Text} {k : Constant}
    (known : Token.ofWord? word = some (.constant k)) : word = k.name := by
  rcases Token.ofWord?_cases known with ⟨f, ⟨⟩, _⟩ | ⟨_, ⟨rfl⟩, named⟩ | ⟨u, ⟨⟩, _⟩
  exact named

theorem Token.ofWord?_ne_number {word : Text} {x : Binary64} :
    ¬ Token.ofWord? word = some (.number x) := by
  intro known
  rcases Token.ofWord?_cases known with ⟨_, ⟨⟩, _⟩ | ⟨_, ⟨⟩, _⟩ | ⟨_, ⟨⟩, _⟩

theorem exists_digit_of_read {n : Numeral} {x : Binary64} (scanned : n.IsScanned)
    (read : n.read = .ok x) : ∃ c ∈ n.text, c.isDigit = true := by
  rcases n with ⟨whole, fraction, exponent⟩
  unfold Numeral.read at read
  split at read
  · contradiction
  · rename_i nonempty
    rw [List.isEmpty_iff, Numeral.digits] at nonempty
    cases whole with
    | cons c whole =>
        exact ⟨c, by simp [Numeral.text], scanned.whole c List.mem_cons_self⟩
    | nil =>
        cases fraction with
        | none => exact absurd rfl nonempty
        | some digits =>
            obtain ⟨c, digits, rfl⟩ := List.exists_cons_of_ne_nil nonempty
            exact ⟨c, by simp [Numeral.text], scanned.fraction _ rfl c List.mem_cons_self⟩

/-- A known word with nothing but marks and blanks around it stands alone. -/
theorem standsAlone_append {letters t : Text} {before : Option Char} {k : Constant}
    (alphanum : ∀ c ∈ letters, c.isAlphanum = true)
    (named : letters.map Char.toLower = k.name) (left : isWordAt before = false)
    (right : isWordAt t.head? = false) : standsAlone k.name before (letters ++ t) = true := by
  have folded : letters.map foldedChar = k.name := (map_foldedChar alphanum).trans named
  have matched : afterPattern? k.name (letters ++ t) = some t :=
    (afterPattern?_eq_some_iff (Constant.ascii_name k)).mpr ⟨letters, rfl, folded⟩
  have length : k.name.length = letters.length := by rw [← named, List.length_map]
  obtain ⟨c, letters, rfl⟩ := List.exists_cons_of_ne_nil (l := letters) (by
    rintro rfl
    cases k <;> cases named)
  have head : isWordAt (some c) = true := isWord_of_isAlphanum (alphanum c List.mem_cons_self)
  have last : isWordAt (c :: letters).getLast? = true := by
    rw [List.getLast?_eq_some_getLast (List.cons_ne_nil c letters)]
    exact isWord_of_isAlphanum (alphanum _ (List.getLast_mem _))
  have start : isBoundary before (c :: letters ++ t).head? = true := by
    rw [isBoundary, left, List.cons_append, List.head?_cons, head]
    rfl
  have stop : isBoundary ((c :: letters ++ t).take k.name.length).getLast? t.head? = true := by
    rw [isBoundary, length, List.take_left, last, right]
    rfl
  rw [standsAlone, start, matched, Option.any_some, stop]
  rfl

/-- Behind a word there is no other word character. -/
theorem isWordAt_head?_of_ends {tokens : List Token} {t : Text} (renders : Renders tokens t)
    (ends : ∀ d ∈ t.head?, d.isAlphanum = false) : isWordAt t.head? = false := by
  cases t with
  | nil => rfl
  | cons d t =>
      rcases renders.isPlain d List.mem_cons_self with ascii | blank
      · have allowed := (isClean_of_renders renders).isAllowed List.mem_cons_self
          (.of_not_alphanum ascii (ends d rfl))
        exact of_ascii (p := fun d => isAllowed d = true → d.isAlphanum = false →
          isWord d = false) (by decide) ascii allowed (ends d rfl)
      · exact isWord_of_blank blank

/-- Without digits, the constants among the tokens of a text stand alone in it. -/
theorem occurs_standsAlone_of_renders {tokens : List Token} {t : Text} {k : Constant}
    (renders : Renders tokens t) (noDigit : ∀ c ∈ t, c.isDigit = false)
    (mem : Token.constant k ∈ tokens) (before : Option Char)
    (edge : isWordAt before = false ∨ isWordAt t.head? = false) :
    occurs (standsAlone k.name) before t = true := by
  induction renders generalizing before with
  | nil => contradiction
  | @blank c tokens t isBlank rest ih =>
      have ⟨_, others⟩ := List.forall_mem_cons.mp noDigit
      rw [occurs_cons, Bool.or_eq_true]
      exact .inr (ih others mem (some c) (.inl (isWord_of_blank isBlank)))
  | @mark c token tokens t isMark rest ih =>
      have ⟨_, others⟩ := List.forall_mem_cons.mp noDigit
      have marks : ∀ m ∈ Token.marks, isWord m.1 = false ∧ m.2.isOperand = false := by decide
      rcases marks _ (Token.mem_marks isMark) with ⟨outside, other⟩
      have later : .constant k ∈ tokens := (List.mem_cons.mp mem).resolve_left (by
        rintro rfl
        contradiction)
      rw [occurs_cons, Bool.or_eq_true]
      exact .inr (ih others later (some c) (.inl outside))
  | @word c letters token tokens t head tail known ends rest ih =>
      have ⟨_, others⟩ := List.forall_mem_append.mp noDigit
      have alphanum : ∀ d ∈ c :: letters, d.isAlphanum = true :=
        List.forall_mem_cons.mpr ⟨Bool.or_eq_true_iff.mpr (.inl head), tail⟩
      have right := isWordAt_head?_of_ends rest ends
      rcases List.mem_cons.mp mem with rfl | later
      · have first : isWordAt (c :: letters ++ t).head? = true :=
          isWord_of_isAlphanum (alphanum c List.mem_cons_self)
        have left : isWordAt before = false := edge.resolve_right (by rw [first]; decide)
        have here := standsAlone_append alphanum (Constant.name_of_ofWord? known) left right
        rw [List.cons_append] at here ⊢
        rw [occurs_cons, here, Bool.true_or]
      · exact occurs_append (ih others later _ (.inr right))
  | @numeral n x tokens t scanned read rest ih =>
      rcases exists_digit_of_read scanned read with ⟨c, inNumeral, digit⟩
      rw [noDigit c (List.mem_append_left _ inNumeral)] at digit
      contradiction

/-- A number among the tokens of a text has left a digit in it. -/
theorem exists_digit_of_renders {tokens : List Token} {t : Text} {x : Binary64}
    (renders : Renders tokens t) (mem : Token.number x ∈ tokens) :
    ∃ c ∈ t, c.isDigit = true := by
  induction renders with
  | nil => contradiction
  | blank _ _ ih =>
      rcases ih mem with ⟨c, inside, digit⟩
      exact ⟨c, List.mem_cons_of_mem _ inside, digit⟩
  | mark isMark _ ih =>
      have marks : ∀ m ∈ Token.marks, m.2.isOperand = false := by decide
      have other := marks _ (Token.mem_marks isMark)
      have later := (List.mem_cons.mp mem).resolve_left (by
        rintro rfl
        contradiction)
      rcases ih later with ⟨c, inside, digit⟩
      exact ⟨c, List.mem_cons_of_mem _ inside, digit⟩
  | word _ _ known _ _ ih =>
      have later := (List.mem_cons.mp mem).resolve_left (by
        rintro rfl
        exact Token.ofWord?_ne_number known)
      rcases ih later with ⟨c, inside, digit⟩
      exact ⟨c, List.mem_append_right _ inside, digit⟩
  | numeral scanned read _ _ =>
      rcases exists_digit_of_read scanned read with ⟨c, inside, digit⟩
      exact ⟨c, List.mem_append_left _ inside, digit⟩

/-- A text with a number or a constant among its tokens has a digit or a constant. -/
theorem hasDigitOrConstant_of_renders {tokens : List Token} {t : Text}
    (renders : Renders tokens t) (operand : ∃ token ∈ tokens, token.isOperand = true) :
    hasDigitOrConstant t = true := by
  rw [hasDigitOrConstant, Bool.or_eq_true, Bool.or_eq_true, or_assoc]
  by_cases digit : ∃ c ∈ t, c.isDigit = true
  · rcases digit with ⟨c, mem, digit⟩
    exact .inl (List.any_eq_true.mpr ⟨c, mem, isDecimalDigit_of_isDigit digit⟩)
  · refine .inr ?_
    have noDigit : ∀ c ∈ t, c.isDigit = false :=
      fun c mem => Bool.eq_false_iff.mpr fun isDigit => digit ⟨c, mem, isDigit⟩
    rcases operand with ⟨token, mem, isOperand⟩
    cases token with
    | number x => exact absurd (exists_digit_of_renders renders mem) digit
    | constant k =>
        have found := occurs_standsAlone_of_renders renders noDigit mem none (.inl rfl)
        cases k with
        | pi => exact .inl found
        | e => exact .inr found
    | _ => contradiction

end Gate

end Reckoner

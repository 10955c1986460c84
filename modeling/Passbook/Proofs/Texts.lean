import Mathlib
import Passbook.Text.Charset
import Passbook.Text.Padded
import Passbook.Text.Utf8

/-! Texts without a mark: each of their characters is a code point of its own, so that they can be encoded. Numerals are among
them, and from a text that names two integers both can be read back. A text of ASCII characters is read back from its bytes. -/
namespace Passbook.Text

def Plain (text : String) : Prop := mark ∉ text.toList

instance (text : String) : Decidable (Plain text) := inferInstanceAs (Decidable (mark ∉ text.toList))

namespace Plain
variable {s t : String}

theorem append (first : Plain s) (second : Plain t) : Plain (s ++ t) := by
  unfold Plain
  rw [String.toList_append, List.mem_append]
  exact not_or.mpr ⟨first, second⟩

theorem literal {chars : List Char} (plain : chars.contains mark = false) : Plain (String.ofList chars) := by
  unfold Plain
  rw [String.toList_ofList]
  simpa using plain

theorem join {texts : List String} (plain : ∀ text ∈ texts, Plain text) : Plain (String.join texts) := by
  unfold Plain
  rw [String.toList_join]
  intro among
  obtain ⟨text, textAmong, among⟩ := List.mem_flatMap.mp among
  exact plain text textAmong among

theorem intercalate {between : String} {texts : List String} (first : Plain between) (plain : ∀ text ∈ texts, Plain text) :
    Plain (between.intercalate texts) := by
  induction texts with
  | nil => exact (by decide : Plain "")
  | cons text rest ih =>
    have here := plain text (by simp)
    cases rest with
    | nil =>
      rw [String.intercalate_singleton]
      exact here
    | cons next rest =>
      rw [String.intercalate_cons_cons]
      exact .append (.append here first) (ih fun text among => plain text (List.mem_cons_of_mem _ among))

theorem codesOf_eq {chars : List Char} (plain : mark ∉ chars) : codesOf chars = chars.map Char.toNat := by
  induction chars with
  | nil => rfl
  | cons c rest ih =>
    obtain ⟨here, after⟩ := not_or.mp (mt List.mem_cons.mpr plain)
    rw [List.map_cons, ← ih after]
    cases rest with
    | nil => rfl
    | cons d rest =>
      have other : ¬ c = mark := fun same => here same.symm
      simp only [codesOf, other, if_false]

theorem isHalf_toNat (c : Char) : isHalf c.toNat = false := by
  have valid : c.toNat.isValidChar := c.valid
  simp only [Nat.isValidChar] at valid
  simp only [isHalf, isHighHalf, isLowHalf, Bool.or_eq_false_iff, Bool.and_eq_false_iff, decide_eq_false_iff_not]
  omega

theorem encodable (plain : Plain t) : unencodable? .utf8 t = none := by
  have held : ∀ code ∈ codes t, Charset.utf8.holds code = true := by
    intro code among
    rw [codes, codesOf_eq plain, List.mem_map] at among
    obtain ⟨c, _, rfl⟩ := among
    simp only [Charset.holds, isHalf_toNat, Bool.not_false]
  have nothing : (codes t).dropWhile Charset.utf8.holds = [] := List.dropWhile_eq_nil_iff.mpr held
  unfold unencodable?
  simp only [nothing]

end Plain

theorem mark_notMem_digits (width n : Nat) : mark ∉ digits width n := by
  induction width generalizing n with
  | zero => exact List.not_mem_nil
  | succ width ih =>
    have last : ∀ d < 10, mark ≠ Char.ofNat (48 + d) := by decide
    rw [digits, List.mem_append, List.mem_singleton]
    exact not_or.mpr ⟨ih _, last _ (Nat.mod_lt n (by decide))⟩

theorem mark_notMem_hexDigits (width n : Nat) : mark ∉ hexDigits width n := by
  induction width generalizing n with
  | zero => exact List.not_mem_nil
  | succ width ih =>
    have last : ∀ d < 16, mark ≠ hexDigit d := by decide
    rw [hexDigits, List.mem_append, List.mem_singleton]
    exact not_or.mpr ⟨ih _, last _ (Nat.mod_lt n (by decide))⟩

theorem numeral_chars (n : Int) {c : Char} (among : c ∈ (toString n).toList) : c = '-' ∨ c.isDigit = true := by
  rw [Int.toString_eq_repr, Int.repr_eq_if] at among
  have digit {m : Nat} (among : c ∈ m.repr.toList) : c.isDigit = true := by
    rw [Nat.toList_repr] at among
    exact Nat.isDigit_of_mem_toDigits (by decide) (by decide) among
  split at among
  · exact .inr (digit among)
  · rw [String.toList_append, List.mem_append] at among
    rcases among with sign | among
    · exact .inl (List.mem_singleton.mp sign)
    · exact .inr (digit among)

theorem notMem_numeral {c : Char} (unsigned : c ≠ '-') (other : ¬ c.isDigit = true) (n : Int) : c ∉ (toString n).toList := by
  intro among
  rcases numeral_chars n among with sign | digit
  · exact unsigned sign
  · exact other digit

theorem Plain.numeral (n : Int) : Plain (toString n) := notMem_numeral (by decide) (by decide) n

def Ascii (text : String) : Prop := ∀ c ∈ text.toList, c.toNat < 0x80

namespace Ascii
variable {s t : String}

theorem literal {chars : List Char} (ascii : chars.all (fun c => c.toNat < 0x80) = true) : Ascii (String.ofList chars) := by
  unfold Ascii
  rw [String.toList_ofList]
  simpa using ascii

theorem append (first : Ascii s) (second : Ascii t) : Ascii (s ++ t) := by
  intro c among
  rw [String.toList_append, List.mem_append] at among
  exact among.elim (first c) (second c)

theorem join {texts : List String} (ascii : ∀ text ∈ texts, Ascii text) : Ascii (String.join texts) := by
  intro c among
  rw [String.toList_join] at among
  obtain ⟨text, textAmong, among⟩ := List.mem_flatMap.mp among
  exact ascii text textAmong c among

theorem numeral (n : Int) : Ascii (toString n) := by
  intro c among
  rcases numeral_chars n among with rfl | digit
  · decide
  · exact Nat.lt_of_le_of_lt (Char.isDigit_iff_toNat.mp digit).2 (by decide)

theorem plain (ascii : Ascii t) : Plain t := by
  intro among
  exact absurd (ascii mark among) (by decide)

theorem codes_lt (ascii : Ascii t) : ∀ code ∈ codes t, code < 0x80 := by
  intro code among
  rw [codes, Plain.codesOf_eq ascii.plain] at among
  obtain ⟨c, there, rfl⟩ := List.mem_map.mp among
  exact ascii c there

theorem ofCodes_codes (ascii : Ascii t) : ofCodes (codes t) = t := by
  have back (c : Char) (among : c ∈ t.toList) : charsOfCode c.toNat = [c] := by
    have low := ascii c among
    have whole : isHalf c.toNat = false := Plain.isHalf_toNat c
    have other : c.toNat ≠ mark.toNat := by
      have high : mark.toNat = 0x10ffff := rfl
      omega
    unfold charsOfCode
    rw [whole, if_neg Bool.false_ne_true, if_neg other, Char.ofNat_toNat]
  rw [ofCodes, codes, Plain.codesOf_eq ascii.plain, List.flatMap_map, List.flatMap_congr back, List.flatMap_singleton',
    String.ofList_toList]

theorem utf8Bytes_eq (ascii : Ascii t) : utf8Bytes t = codes t := by
  have bytes : ∀ code ∈ codes t, bytesOfCode code = [code] := fun code among => if_pos (ascii.codes_lt code among)
  rw [utf8Bytes, List.flatMap_congr bytes, List.flatMap_singleton']

theorem ofUtf8 (ascii : Ascii t) : ofUtf8 (((utf8Bytes t).map Nat.toUInt8).map UInt8.toNat) = .ok t := by
  have kept : ∀ code ∈ codes t, (UInt8.toNat ∘ Nat.toUInt8) code = id code := by
    intro code among
    have low := ascii.codes_lt code among
    exact Nat.mod_eq_of_lt (by omega)
  rw [ascii.utf8Bytes_eq, List.map_map, List.map_congr_left kept, List.map_id, ofUtf8_of_ascii ascii.codes_lt, ascii.ofCodes_codes]

theorem latin1 (ascii : Ascii t) : unencodable? .latin1 t = none := by
  have held : ∀ code ∈ codes t, Charset.latin1.holds code = true := by
    intro code among
    have low := ascii.codes_lt code among
    exact decide_eq_true (by omega)
  have nothing : (codes t).dropWhile Charset.latin1.holds = [] := List.dropWhile_eq_nil_iff.mpr held
  unfold unencodable?
  simp only [nothing]

end Ascii

theorem blank_notMem_numeral (n : Int) : ' ' ∉ (toString n).toList := notMem_numeral (by decide) (by decide) n

theorem natNumeral_injective {m n : Nat} (same : m.repr = n.repr) : m = n := by
  have digits : Nat.toDigits 10 m = Nat.toDigits 10 n := by
    rw [← Nat.toList_repr, ← Nat.toList_repr, same]
  calc
    m = Nat.ofDigitChars 10 (Nat.toDigits 10 m) 0 := Nat.ofDigitChars_ten_toDigits.symm
    _ = Nat.ofDigitChars 10 (Nat.toDigits 10 n) 0 := by rw [digits]
    _ = n := Nat.ofDigitChars_ten_toDigits

theorem minus_notMem_natNumeral (n : Nat) : '-' ∉ n.repr.toList := by
  rw [Nat.toList_repr]
  intro among
  exact absurd (Nat.isDigit_of_mem_toDigits (by decide) (by decide) among) (by decide)

theorem numeral_injective {m n : Int} (same : toString m = toString n) : m = n := by
  rw [Int.toString_eq_repr, Int.toString_eq_repr, Int.repr_eq_if, Int.repr_eq_if] at same
  have unsigned (k l : Nat) : k.repr ≠ "-" ++ l.repr := by
    intro equal
    have among : '-' ∈ k.repr.toList := by
      rw [equal, String.toList_append, List.mem_append]
      exact .inl (List.mem_singleton.mpr rfl)
    exact minus_notMem_natNumeral k among
  split at same <;> split at same
  · have := natNumeral_injective same
    omega
  · exact absurd same (unsigned _ _)
  · exact absurd same.symm (unsigned _ _)
  · have := natNumeral_injective ((String.append_right_inj "-").mp same)
    omega

theorem split_at {border : Char} {l₁ l₂ r₁ r₂ : List Char} (none₁ : border ∉ l₁) (none₂ : border ∉ l₂)
    (same : l₁ ++ border :: r₁ = l₂ ++ border :: r₂) : l₁ = l₂ ∧ r₁ = r₂ := by
  induction l₁ generalizing l₂ with
  | nil =>
    cases l₂ with
    | nil => exact ⟨rfl, (List.cons.inj same).2⟩
    | cons c l₂ =>
      rw [List.nil_append, List.cons_append] at same
      exact absurd (List.mem_cons.mpr (.inl (List.cons.inj same).1)) none₂
  | cons c l₁ ih =>
    cases l₂ with
    | nil =>
      rw [List.nil_append, List.cons_append] at same
      exact absurd (List.mem_cons.mpr (.inl (List.cons.inj same).1.symm)) none₁
    | cons d l₂ =>
      rw [List.cons_append, List.cons_append] at same
      obtain ⟨heads, tails⟩ := List.cons.inj same
      obtain ⟨before, after⟩ := ih (mt (List.mem_cons_of_mem c) none₁) (mt (List.mem_cons_of_mem d) none₂) tails
      exact ⟨by rw [heads, before], after⟩

/-- An integer with a minus behind it can be read back, though it may have a minus of its own. -/
theorem split_at_minus {m n : Int} {r₁ r₂ : String} (same : toString m ++ "-" ++ r₁ = toString n ++ "-" ++ r₂) :
    m = n ∧ r₁ = r₂ := by
  have apart {k : Nat} {s₁ s₂ : String} : k.repr ++ "-" ++ s₁ ≠ "-" ++ s₂ := by
    intro equal
    have chars := congrArg String.toList equal
    simp only [String.toList_append] at chars
    cases digits : k.repr.toList with
    | nil => exact absurd (String.toList_eq_nil_iff.mp digits) Nat.repr_ne_empty
    | cons c cs =>
      rw [digits] at chars
      exact minus_notMem_natNumeral k (digits ▸ List.mem_cons.mpr (.inl (List.cons.inj chars).1.symm))
  have unsigned {k l : Nat} (equal : k.repr ++ "-" ++ r₁ = l.repr ++ "-" ++ r₂) : k = l ∧ r₁ = r₂ := by
    have chars := congrArg String.toList equal
    simp only [String.toList_append, List.append_assoc] at chars
    obtain ⟨first, rest⟩ := split_at (minus_notMem_natNumeral k) (minus_notMem_natNumeral l) chars
    exact ⟨natNumeral_injective (String.toList_inj.mp first), String.toList_inj.mp rest⟩
  rw [Int.toString_eq_repr, Int.toString_eq_repr, Int.repr_eq_if, Int.repr_eq_if] at same
  split at same <;> split at same
  · obtain ⟨equal, rest⟩ := unsigned same
    exact ⟨by omega, rest⟩
  · exact absurd (by simpa only [String.append_assoc] using same) apart
  · exact absurd (by simpa only [String.append_assoc] using same.symm) apart
  · obtain ⟨equal, rest⟩ := unsigned ((String.append_right_inj "-").mp (by simpa only [String.append_assoc] using same))
    exact ⟨by omega, rest⟩

def naming (head middle : String) (m n : Int) : String := head ++ toString m ++ (" " ++ middle) ++ toString n

theorem naming_plain {head middle : String} (first : Plain head) (second : Plain middle) (m n : Int) :
    Plain (naming head middle m n) :=
  ((first.append (.numeral m)).append (.append (by decide) second)).append (.numeral n)

theorem naming_injective {head middle : String} {m n i j : Int} (same : naming head middle m i = naming head middle n j) :
    m = n ∧ i = j := by
  have chars := congrArg String.toList same
  simp only [naming, String.toList_append, List.append_assoc] at chars
  have blank : " ".toList = [' '] := rfl
  rw [List.append_cancel_left_eq, blank] at chars
  obtain ⟨first, rest⟩ := split_at (blank_notMem_numeral m) (blank_notMem_numeral n) chars
  have second := List.append_cancel_left (show middle.toList ++ _ = middle.toList ++ _ from rest)
  exact ⟨numeral_injective (String.toList_inj.mp first), numeral_injective (String.toList_inj.mp second)⟩

end Passbook.Text

import Mathlib.Data.List.TakeWhile
import MailboxSync.Text.Blank

/-! Texts and their bytes: the order of texts is that of their bytes in UTF-8, and a text is blank if nothing of it is
left once white space is taken off. -/

namespace MailboxSync.Text

/-- The text without the white space at its ends. -/
def trim (s : String) : List Char := ((s.toList.dropWhile isSpace).reverse.dropWhile isSpace).reverse

theorem isBlank_iff_trim (s : String) : isBlank s = true ↔ trim s = [] := by
  rw [isBlank, trim, List.reverse_eq_nil_iff, List.dropWhile_eq_nil_iff, List.all_eq_true]
  simp only [List.mem_reverse]
  constructor
  · intro spaces c mem
    exact spaces c ((List.dropWhile_suffix isSpace).subset mem)
  · intro rest
    -- What is left begins with a sign that is no space, so nothing is.
    have nothing : s.toList.dropWhile isSpace = [] := by
      by_contra some
      have solid := List.head_dropWhile_not isSpace some
      rw [rest _ (List.head_mem some)] at solid
      cases solid
    exact List.dropWhile_eq_nil_iff.mp nothing

def bytes (s : String) : List UInt8 := s.toUTF8.data.toList

theorem bytes_eq (s : String) : bytes s = s.toList.flatMap String.utf8EncodeChar := by
  have encoded : s.toUTF8 = s.toList.utf8Encode := by
    rw [String.toUTF8_eq_toByteArray, ← String.toByteArray_ofList, String.ofList_toList]
  rw [bytes, encoded, List.utf8Encode, List.data_toByteArray]

/-- At some place both have a byte, the one of the first is the smaller, and before it they are the same. -/
def Precedes : List UInt8 → List UInt8 → Prop
  | x :: l, y :: m => x < y ∨ x = y ∧ Precedes l m
  | _, _ => False

theorem Precedes.append_lt_append {l m : List UInt8} (precedes : Precedes l m) (r t : List UInt8) :
    l ++ r < m ++ t := by
  induction l generalizing m with
  | nil => exact precedes.elim
  | cons x l ih =>
    cases m with
    | nil => exact precedes.elim
    | cons y m =>
      rw [List.cons_append, List.cons_append, List.cons_lt_cons_iff]
      exact precedes.imp_right fun ⟨same, later⟩ => ⟨same, ih later⟩

/-- The bytes of the smaller character come first, and they are never the beginning of the other's. -/
theorem precedes_utf8EncodeChar {c d : Char} (lt : c < d) :
    Precedes (String.utf8EncodeChar c) (String.utf8EncodeChar d) := by
  have below : c.val.toNat < d.val.toNat := UInt32.lt_iff_toNat_lt.mp lt
  have bound : d.val.toNat < 0x110000 := by
    have valid : d.val.toNat < 55296 ∨ 57343 < d.val.toNat ∧ d.val.toNat < 1114112 := d.valid
    omega
  have thirds (v : Nat) : v / 4096 = v / 64 / 64 := by rw [Nat.div_div_eq_div_mul]
  have fourths (v : Nat) : v / 262144 = v / 64 / 64 / 64 := by rw [Nat.div_div_eq_div_mul, Nat.div_div_eq_div_mul]
  -- More bytes go with a larger first byte, and among as many the first that differs decides.
  unfold String.utf8EncodeChar
  dsimp only
  split_ifs
  all_goals
    simp only [Precedes, UInt8.lt_iff_toNat_lt, ← UInt8.toNat_inj, UInt8.toNat_ofNat', thirds, fourths]
    omega

theorem utf8EncodeChar_ne_nil (c : Char) : String.utf8EncodeChar c ≠ [] := by
  unfold String.utf8EncodeChar
  dsimp only
  split_ifs
  all_goals exact List.cons_ne_nil _ _

theorem flatMap_utf8EncodeChar_lt {l m : List Char} (lt : l < m) :
    l.flatMap String.utf8EncodeChar < m.flatMap String.utf8EncodeChar := by
  induction lt with
  | @nil c m =>
    rw [List.flatMap_cons, List.flatMap_nil]
    obtain ⟨x, rest, bytes⟩ := List.exists_cons_of_ne_nil (utf8EncodeChar_ne_nil c)
    rw [bytes]
    exact List.Lex.nil
  | rel lt =>
    rw [List.flatMap_cons, List.flatMap_cons]
    exact (precedes_utf8EncodeChar lt).append_lt_append _ _
  | cons _ ih =>
    rw [List.flatMap_cons, List.flatMap_cons]
    exact List.append_left_lt ih

/-- Texts are in the order of their bytes. -/
theorem bytes_lt_iff {s t : String} : bytes s < bytes t ↔ s < t := by
  rw [bytes_eq, bytes_eq, String.lt_iff]
  constructor
  · intro lt
    rcases Std.lt_trichotomy s.toList t.toList with before | same | after
    · exact before
    · rw [same] at lt
      exact absurd lt (List.lt_irrefl _)
    · exact absurd (flatMap_utf8EncodeChar_lt after) (List.lt_asymm lt)
  · exact flatMap_utf8EncodeChar_lt

end MailboxSync.Text

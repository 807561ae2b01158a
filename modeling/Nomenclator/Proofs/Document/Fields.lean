import Nomenclator.Document.Reader
import Nomenclator.Proofs.Journal
import Nomenclator.Proofs.Table

/-!
# The fields of a record that has been read

A document may write a field several times.  The reader lets the last of them win at the place of
the first, so a record that has been read has each field once.
-/

namespace Nomenclator.Document

lemma readTail_ne_record {negative : Bool} {whole rest r : List Char} {fields : Table Value} :
    readTail negative whole rest ≠ .ok (.record fields, r) := by
  unfold readTail
  dsimp only
  split
  · split <;> simp
  · simp

lemma readNumber_ne_record {cs r : List Char} {fields : Table Value} :
    readNumber cs ≠ .ok (.record fields, r) := by
  unfold readNumber
  dsimp only
  split
  · exact readTail_ne_record
  · split
    · exact readTail_ne_record
    · simp [failAt]
  · simp [failAt]

lemma readScalar_ne_record {cs r : List Char} {fields : Table Value} :
    readScalar cs ≠ .ok (.record fields, r) := by
  unfold readScalar
  split <;> first | exact readNumber_ne_record | simp

lemma readValue_record_keys_nodup {fuel room : Nat} {cs r : List Char} {fields : Table Value}
    (h : readValue fuel room cs = .ok (.record fields, r)) : fields.keys.Nodup := by
  cases fuel with
  | zero => simp [readValue, failAt] at h
  | succ fuel =>
    unfold readValue at h
    split at h
    · -- a text
      simp [bind_eq_ok_iff, pure, Except.pure] at h
    · simp at h
    · -- a list
      split at h
      · simp at h
      · simp [bind_eq_ok_iff, pure, Except.pure] at h
    · simp at h
    · -- a record
      split at h
      · simp only [Except.ok.injEq, Prod.mk.injEq, Value.record.injEq] at h
        simp [← h.1]
      · simp only [bind_eq_ok_iff, pure, Except.pure, Except.ok.injEq, Prod.mk.injEq,
          Value.record.injEq] at h
        obtain ⟨⟨entries, rest⟩, -, rfl, -⟩ := h
        exact Table.ofEntries_keys_nodup entries
    · exact absurd h readScalar_ne_record

/-- A record that is read from a text has each field once. -/
lemma read_record_keys_nodup {room : Nat} {s : String} {fields : Table Value}
    (h : read room s = .ok (.record fields)) : fields.keys.Nodup := by
  unfold read readChars at h
  split at h
  · simp at h
  · simp only [bind_eq_ok_iff] at h
    obtain ⟨⟨v, rest⟩, hvalue, hrest⟩ := h
    split at hrest
    · obtain rfl : v = .record fields := Except.ok.inj hrest
      exact readValue_record_keys_nodup hvalue
    · simp at hrest

end Nomenclator.Document

import SparkAdmission.Patch
import SparkAdmission.Proofs.Json.Writer

/-!
# Reading patches back

Every patch can be written (`Patch.written_eq`). The text of a pointer is read as that pointer,
whatever characters are in its tokens, and a patch that is written as JSON is read as that patch.
-/

namespace SparkAdmission

namespace Pointer

/-- The characters of a token as they are written. -/
def escaped (token : String) : List Char := token.toList.flatMap escape

theorem slash_notMem_escaped (token : String) : '/' ∉ escaped token := by
  intro h
  obtain ⟨c, -, hc⟩ := List.mem_flatMap.1 h
  unfold escape at hc
  split at hc
  · simp at hc
  · split at hc
    · simp at hc
    · rename_i hne
      exact hne (List.mem_singleton.1 hc).symm

theorem splitSlashes_of_notMem {cs : List Char} (h : '/' ∉ cs) : splitSlashes cs = [cs] := by
  induction cs with
  | nil => rfl
  | cons c cs ih =>
    rw [List.mem_cons, not_or] at h
    rw [splitSlashes.eq_3 _ _ (Ne.symm h.1), ih h.2]

theorem splitSlashes_append {cs : List Char} (h : '/' ∉ cs) (rest : List Char) :
    splitSlashes (cs ++ '/' :: rest) = cs :: splitSlashes rest := by
  induction cs with
  | nil => rfl
  | cons c cs ih =>
    rw [List.mem_cons, not_or] at h
    rw [List.cons_append, splitSlashes.eq_3 _ _ (Ne.symm h.1), ih h.2]

/-- Behind the first slash the parts between slashes are the tokens as they are written. -/
theorem splitSlashes_chars (token : String) (tokens : List String) :
    splitSlashes (escaped token ++ chars ⟨tokens⟩) = (token :: tokens).map escaped := by
  induction tokens generalizing token with
  | nil =>
    rw [show chars ⟨[]⟩ = [] from rfl, List.append_nil,
      splitSlashes_of_notMem (slash_notMem_escaped token)]
    rfl
  | cons next tokens ih =>
    rw [show chars ⟨next :: tokens⟩ = '/' :: (escaped next ++ chars ⟨tokens⟩) from rfl,
      splitSlashes_append (slash_notMem_escaped token), ih next]
    rfl

/-- The text of a pointer determines it. -/
@[simp] theorem ofText?_text (p : Pointer) : ofText? p.text = some p := by
  obtain ⟨tokens⟩ := p
  cases tokens with
  | nil => rfl
  | cons token tokens =>
    have hchars : (text ⟨token :: tokens⟩).toList = '/' :: (escaped token ++ chars ⟨tokens⟩) :=
      String.toList_ofList
    have hunescape : ∀ t : String, String.ofList (unescape (escaped t)) = t := by
      intro t
      rw [escaped, unescape_flatMap_escape, String.ofList_toList]
    rw [ofText?, hchars]
    simp only [splitSlashes_chars, List.map_map]
    congr 2
    exact (List.map_congr_left fun t _ => hunescape t).trans (List.map_id _)

end Pointer

namespace Patch

theorem ofJson?_toJson_add (op : Add) : Add.ofJson? op.toJson = some op := by
  have hop : op.toJson.get? "op" = some (.string "add") := rfl
  have hpath : op.toJson.get? "path" = some (.string op.path.text) := rfl
  have hvalue : op.toJson.get? "value" = some op.value := rfl
  rw [Add.ofJson?, hop, hpath, hvalue]
  simp [Json.text?]

/-- A patch is written as the compact text of its operations. -/
theorem written_eq (patch : Patch) : patch.written = .ok patch.toJson.render :=
  Datum.toText_ofJson _

/-- A patch that is written as JSON is read as that patch. -/
@[simp] theorem ofJson?_toJson (patch : Patch) : ofJson? patch.toJson = some patch := by
  rw [toJson, ofJson?]
  induction patch with
  | nil => rfl
  | cons op patch ih => simp [ofJson?_toJson_add, ih]

end Patch

end SparkAdmission

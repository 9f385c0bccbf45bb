import FacetSearch.Query.Checked

/-!
# Word starts by checked slices

Whether a word starts at a byte offset can be found from two slices of the text: what is from
the offset on, and what is before it.  A slice that starts or ends inside a character is a
fault.  So the bytes are asked first whether the text can be cut at the offset: it can at the
end of the text, and before a byte with which a character starts.
-/

namespace FacetSearch.Text

/-- Whether a word naturally starts at a byte offset of a text, with every slice checked. -/
def startsWordChecked (text : String) (offset : Nat) : Except Query.AccessFault Bool :=
  if offset = 0 ∨ offset = text.utf8ByteSize then return true
  else if text.utf8ByteSize < offset ∨ (⟨offset⟩ : String.Pos.Raw).isValid text = false then
    return false
  else do
    match ← Query.byteSlice text.toList offset text.utf8ByteSize with
    | [] => return true
    | current :: rest =>
        match (← Query.byteSlice text.toList 0 offset).getLast? with
        | none => return true
        | some previous => return Cut.wordStartsBetween previous current rest.head?

end FacetSearch.Text

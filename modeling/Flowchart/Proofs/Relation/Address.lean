import Flowchart.Proofs.Json.Writable
import Flowchart.Proofs.Text.Percent
import Flowchart.Relation.Server

/-! The address that is asked for the label of a stored value. The main statement says that the value
is one segment at the end of the address, and that it is read back from there, whatever it is. -/

namespace Flowchart

namespace RelationServer

section Base

variable (address : String)

/-- Slashes at the end of an address are all that it loses. -/
theorem trimSlashes_append : ∃ count,
    address = trimSlashes address ++ String.ofList (List.replicate count '/') := by
  let slashes := address.toList.reverse.takeWhile (· = '/')
  have split : slashes ++ address.toList.reverse.dropWhile (· = '/') = address.toList.reverse :=
    List.takeWhile_append_dropWhile
  -- What is taken from the end consists of slashes only, so its order does not matter.
  have alike : slashes.reverse = List.replicate slashes.length '/' := by
    refine List.eq_replicate_iff.mpr ⟨List.length_reverse, fun c listed => ?_⟩
    have taken := List.all_eq_true.mp List.all_takeWhile c (List.mem_reverse.mp listed)
    exact of_decide_eq_true taken
  refine ⟨slashes.length, ?_⟩
  rw [trimSlashes, ← alike, ← String.ofList_append, ← List.reverse_append, split,
    List.reverse_reverse, String.ofList_toList]

/-- No slash is left at the end of an address. -/
theorem trimSlashes_getLast? : (trimSlashes address).toList.getLast? ≠ some '/' := by
  intro last
  -- The last character is the first of the reversed text that is no slash.
  rw [trimSlashes, String.toList_ofList, List.getLast?_reverse] at last
  have other := List.head?_dropWhile_not (· = '/') address.toList.reverse
  rw [last] at other
  cases other

end Base

/-- A request for a label says where it goes, and that goes by how the class and the value are
shown. -/
theorem labelRequest_eq_ok {server : RelationServer} {relationClass value : Json}
    {request : WebRequest} :
    server.labelRequest relationClass value = .ok request ↔
      ∃ name shown, relationClass.display = .ok name ∧ value.display = .ok shown ∧
        request = {
          url := server.base ++ "/relations/" ++ name ++ "/" ++ Percent.encode shown
          params := none
          headers := server.headers
          timeout := server.timeout } := by
  simp only [labelRequest, classPath, bind_eq_ok, Pure.pure, Except.pure, Except.ok.injEq,
    exists_and_left, String.append_assoc]
  -- The address is joined from the class path and the segment, in either bracketing.
  constructor
  · rintro ⟨path, ⟨name, named, rfl⟩, shown, seen, rfl⟩
    exact ⟨name, named, shown, seen, by simp only [String.append_assoc]⟩
  · rintro ⟨name, named, shown, seen, rfl⟩
    exact ⟨_, ⟨name, named, rfl⟩, shown, seen, by simp only [String.append_assoc]⟩

/-- A label is asked for exactly if the class and the value can be written. The value is carried by
one segment at the end of the address, behind the address of the server without its slashes at the
end, and behind the path of the class. The segment is made of letters and digits of ASCII, four
signs, and bytes in hexadecimal digits, and the value is read back from it as it is shown. So no
slash comes from the value, and nothing that a query or a fragment starts with; and for one class two
values are asked for at one address only if they are shown alike. -/
theorem labelRequest_carries (address : String) (timeout headers relationClass value : Json) :
    let server := atAddress address timeout headers
    (∃ count, address = server.base ++ String.ofList (List.replicate count '/')) ∧
    server.base.toList.getLast? ≠ some '/' ∧
    match server.labelRequest relationClass value with
    | .error _ => relationClass.isWritable = false ∨ value.isWritable = false
    | .ok request => relationClass.isWritable = true ∧ value.isWritable = true ∧
      ∃ name shown, relationClass.display = .ok name ∧ value.display = .ok shown ∧
        (∃ segment, request.url = server.base ++ "/relations/" ++ name ++ "/" ++ segment ∧
          Percent.Carries segment shown) ∧
        request.params = none ∧
        ∀ other asked, server.labelRequest relationClass other = .ok asked →
          (asked.url = request.url ↔ other.display = value.display) := by
  intro server
  refine ⟨trimSlashes_append address, trimSlashes_getLast? address, ?_⟩
  cases sent : server.labelRequest relationClass value with
  | error reason =>
    -- A class and a value that are shown are asked for.
    by_contra writable
    simp only [not_or, Bool.not_eq_false] at writable
    have named := Json.display_eq_ok.mpr ⟨writable.1, rfl⟩
    have seen := Json.display_eq_ok.mpr ⟨writable.2, rfl⟩
    cases sent.symm.trans (labelRequest_eq_ok.mpr ⟨_, _, named, seen, rfl⟩)
  | ok request =>
    obtain ⟨name, shown, named, seen, rfl⟩ := labelRequest_eq_ok.mp sent
    refine ⟨(Json.display_eq_ok.mp named).1, (Json.display_eq_ok.mp seen).1, name, shown, named,
      seen, ⟨_, rfl, Percent.carries_encode _⟩, rfl, fun other asked again => ?_⟩
    obtain ⟨sameName, otherShown, sameNamed, otherSeen, rfl⟩ := labelRequest_eq_ok.mp again
    cases named.symm.trans sameNamed
    rw [otherSeen, seen, String.append_right_inj, Except.ok.injEq]
    constructor
    -- Values that are shown alike have one segment, and one segment is read back as one text.
    · intro same
      -- Both values are read back from the one segment.
      have read := Percent.decode?_encode otherShown
      rw [same, Percent.decode?_encode, Option.some.injEq] at read
      exact read.symm
    · intro alike
      rw [alike]

end RelationServer

end Flowchart

import TypedClient.Naming.Identifier
import TypedClient.Proofs.Text.Numerals
import TypedClient.Proofs.Text.SnakePass

namespace TypedClient.Text

variable {c : Char} {text : String}

theorem whiteSpace_apart :
    (Property.whiteSpaceRanges.all fun range =>
      clears Property.alphabeticRanges range.1 range.2 1 &&
        clears Property.numericRanges range.1 range.2 1) = true := by
  decide +kernel

theorem not_isWordChar_of_isSpace (h : isSpace c = true) : isWordChar c = false := by
  obtain ⟨range, hmem, hfirst, hlast⟩ := exists_of_inRanges h
  have hrange := List.all_eq_true.mp whiteSpace_apart range hmem
  rw [Bool.and_eq_true] at hrange
  have hsteps : InSteps range.1 range.2 1 c.toNat := ⟨hfirst, hlast, Nat.mod_one _⟩
  have halphabetic : isAlphabetic c = false := not_inRanges_of_clears hrange.1 hsteps
  have hnumeric : isNumeric c = false := not_inRanges_of_clears hrange.2 hsteps
  rw [isWordChar_eq, isAlphanumeric, halphabetic, hnumeric, Bool.or_self]

theorem not_isBlank_of_mem (hc : c ∈ text.toList) (hword : isWordChar c = true) :
    isBlank text = false := by
  by_contra hblank
  rw [Bool.not_eq_false, isBlank, List.all_eq_true] at hblank
  rw [not_isWordChar_of_isSpace (hblank c hc)] at hword
  cases hword

theorem foldChar_mem_snakeCase (hc : c ∈ text.toList) (hword : isWordChar c = true) :
    foldChar c ∈ (snakeCase text).toList := by
  have hmem : foldChar c ∈ (snakeChars text.toList).filter (· != '_') := by
    rw [filter_snakeChars]
    exact List.mem_map_of_mem (List.mem_filter.mpr ⟨hc, hword⟩)
  rw [snakeCase, String.toList_ofList]
  exact List.mem_of_mem_filter hmem

end TypedClient.Text

namespace TypedClient.Naming

open Text

theorem operationName_of_not_isBlank {id : String} (h : isBlank id = false)
    (summary? : Option String) : operationName (some id) summary? = methodName id := by
  simp [operationName, Option.filter, h]

theorem names_snakeCase (text : String) :
    upperCamelCase (snakeCase text) = upperCamelCase text ∧
      typeName (snakeCase text) = typeName text ∧
      methodName (snakeCase text) = methodName text := by
  have hupper := upperCamelCase_snakeCase text
  have hlower := lowerCamelCase_snakeCase text
  exact ⟨hupper, congrArg (finish fallbackTypeName) hupper,
    congrArg (finish fallbackMethodName) hlower⟩

/-- An operation keeps its callable when its id is spelled in snake case. Without letters and
numbers the spelling is empty, and the summary takes the place of the id. -/
theorem operationName_snakeCase {id : String} {c : Char} (hc : c ∈ id.toList)
    (hword : isWordChar c = true) (summary? : Option String) :
    operationName (some (snakeCase id)) summary? = operationName (some id) summary? := by
  have hspelled : isBlank (snakeCase id) = false :=
    not_isBlank_of_mem (foldChar_mem_snakeCase hc hword) (isWordChar_foldChar hword)
  have hid : isBlank id = false := not_isBlank_of_mem hc hword
  rw [operationName_of_not_isBlank hspelled, operationName_of_not_isBlank hid, methodName,
    methodName, lowerCamelCase_snakeCase]

example : operationName (some "!?") (some "list pets") = "unknown" ∧
    operationName (some (snakeCase "!?")) (some "list pets") = "listPets" := by
  decide +kernel

end TypedClient.Naming

import WebProxy.Library.Split

/-! The last component of a path: its extension and its stem, as `std::path` takes them apart. -/

namespace FileName

def extension (name : List Char) : Option (List Char) :=
  if name = ['.', '.'] then none
  else
    match Split.rsplitOnce '.' name with
    | none => none
    | some (front, back) => if front = [] then none else some back

def stem (name : List Char) : List Char :=
  if name = ['.', '.'] then name
  else
    match Split.rsplitOnce '.' name with
    | none => name
    | some (front, _) => if front = [] then name else front

def withExtension (name ext : List Char) : List Char :=
  stem name ++ '.' :: ext

variable {name front back : List Char}

theorem extension_none (plain : '.' ∉ name) : extension name = none := by
  unfold extension
  split
  · rfl
  · rw [Split.rsplitOnce_none_iff.mpr plain]

theorem not_parent (some_back : back ≠ []) : front ++ '.' :: back ≠ ['.', '.'] ∨ front = [] := by
  cases front with
  | nil => exact Or.inr rfl
  | cons char front =>
      left
      intro same
      cases front with
      | nil =>
          simp only [List.cons_append, List.nil_append, List.cons.injEq, true_and] at same
          exact some_back same.2
      | cons other front => simp at same

theorem extension_append (some_front : front ≠ []) (plain : '.' ∉ back) (some_back : back ≠ []) :
    extension (front ++ '.' :: back) = some back := by
  have apart := (not_parent some_back).resolve_right some_front
  rw [extension, if_neg apart, Split.rsplitOnce_append plain]
  exact if_neg some_front

theorem stem_append (some_front : front ≠ []) (plain : '.' ∉ back) (some_back : back ≠ []) :
    stem (front ++ '.' :: back) = front := by
  have apart := (not_parent some_back).resolve_right some_front
  rw [stem, if_neg apart, Split.rsplitOnce_append plain]
  exact if_neg some_front

theorem withExtension_append (some_front : front ≠ []) (plain : '.' ∉ back) (some_back : back ≠ [])
    (ext : List Char) : withExtension (front ++ '.' :: back) ext = front ++ '.' :: ext := by
  rw [withExtension, stem_append some_front plain some_back]

end FileName

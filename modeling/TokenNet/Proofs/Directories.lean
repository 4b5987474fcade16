import TokenNet.CommandLine.Directory

namespace TokenNet
namespace CommandLine

/-!
# What can be read in a directory

A text is read under its name, behind components that stay where they are, and under no other path
(`Directory.files_eq_ok_iff`).  A name on its own leads to its text if the directory has one
(`Directory.files_of_isName`).
-/

/-- A component that can be the name of a text. -/
structure IsName (component : String) : Prop where
  /-- It neither is empty nor stands for the directory. -/
  moves : ¬ (component = "" ∨ component = ".")
  /-- It does not leave the directory. -/
  ne_dots : component ≠ ".."
  /-- It is not too long. -/
  size_le : component.utf8ByteSize ≤ Directory.maxComponent

namespace Directory

variable {directory : Directory} {next : Place} {component content path : String}
  {parts : List String}

/-! ### One component -/

theorem follow_directory (directory : Directory) (component : String) :
    directory.follow .directory component =
      if component = "" ∨ component = "." then .ok .directory
      else if component = ".." then .ok .surroundings
      else if maxComponent < component.utf8ByteSize then .error .nameTooLong
      else
        match directory.get? component with
        | some content => .ok (.text content)
        | none => .error .missing := rfl

theorem follow_of_isName (hName : IsName component) :
    directory.follow .directory component =
      match directory.get? component with
      | some content => .ok (.text content)
      | none => .error .missing := by
  rw [follow_directory, if_neg hName.moves, if_neg hName.ne_dots, if_neg (Nat.not_lt.mpr hName.size_le)]

/-- From the directory a component leads to it again, out of it or to the text of a name. -/
theorem follow_directory_eq_ok_iff :
    directory.follow .directory component = .ok next ↔
      ((component = "" ∨ component = ".") ∧ next = .directory) ∨
      (component = ".." ∧ next = .surroundings) ∨
      (IsName component ∧ ∃ content, directory.get? component = some content ∧
        next = .text content) := by
  by_cases hName : IsName component
  · rw [follow_of_isName hName]
    cases hText : directory.get? component <;> simp [hName.moves, hName.ne_dots, hName, eq_comm]
  · rw [follow_directory]
    by_cases hStays : component = "" ∨ component = "."
    · have hDots : component ≠ ".." := by rcases hStays with rfl | rfl <;> decide
      rw [if_pos hStays]
      simp [hStays, hDots, hName, eq_comm]
    · by_cases hDots : component = ".."
      · rw [if_neg hStays, if_pos hDots]
        simp only [eq_false hStays, eq_true hDots, hName, false_and, true_and, false_or, or_false,
          Except.ok.injEq, eq_comm]
      · have hLong : maxComponent < component.utf8ByteSize :=
          Nat.lt_of_not_le fun hShort => hName ⟨hStays, hDots, hShort⟩
        simp [hStays, hDots, hLong, hName]

/-- Outside the directory nothing is found. -/
theorem eq_surroundings_of_follow (hNext : directory.follow .surroundings component = .ok next) :
    next = .surroundings := by
  have hFollow : directory.follow .surroundings component =
      if component = "" ∨ component = "." ∨ component = ".." then .ok .surroundings
      else if maxComponent < component.utf8ByteSize then .error .nameTooLong
      else .error .missing := rfl
  rw [hFollow] at hNext
  by_cases hStays : component = "" ∨ component = "." ∨ component = ".."
  · rw [if_pos hStays] at hNext
    exact (Except.ok.inj hNext).symm
  · rw [if_neg hStays] at hNext
    split at hNext <;> cases hNext

/-! ### Whole paths -/

theorem eq_surroundings_of_foldlM
    (hLed : parts.foldlM directory.follow .surroundings = .ok next) : next = .surroundings := by
  induction parts with
  | nil => exact (Except.ok.inj hLed).symm
  | cons component rest ih =>
      cases hStep : directory.follow .surroundings component with
      | error error => simp [List.foldlM_cons, hStep, bind, Except.bind] at hLed
      | ok between =>
          obtain rfl := eq_surroundings_of_follow hStep
          simp only [List.foldlM_cons, hStep] at hLed
          exact ih hLed

/-- Behind a text a path cannot go on. -/
theorem eq_nil_of_foldlM_text
    (hLed : parts.foldlM directory.follow (.text content) = .ok next) : parts = [] := by
  cases parts with
  | nil => rfl
  | cons component rest => cases hLed

/-- A path that leads to a text ends with the name of the text. -/
theorem exists_name_of_foldlM
    (hLed : parts.foldlM directory.follow .directory = .ok (.text content)) :
    ∃ earlier name, parts = earlier ++ [name] ∧
      (∀ component ∈ earlier, component = "" ∨ component = ".") ∧
      IsName name ∧ directory.get? name = some content := by
  induction parts with
  | nil => cases hLed
  | cons first rest ih =>
      cases hStep : directory.follow .directory first with
      | error error => simp [List.foldlM_cons, hStep, bind, Except.bind] at hLed
      | ok between =>
          simp only [List.foldlM_cons, hStep] at hLed
          rcases follow_directory_eq_ok_iff.mp hStep with
            ⟨hStays, rfl⟩ | ⟨-, rfl⟩ | ⟨hName, held, hHeld, rfl⟩
          · obtain ⟨earlier, name, rfl, hEarlier, hFound⟩ := ih hLed
            exact ⟨first :: earlier, name, rfl, List.forall_mem_cons.mpr ⟨hStays, hEarlier⟩, hFound⟩
          · cases eq_surroundings_of_foldlM hLed
          · obtain rfl := eq_nil_of_foldlM_text hLed
            cases hLed
            exact ⟨[], first, rfl, List.forall_mem_nil _, hName, hHeld⟩

/-- A path that stays in the directory and ends with the name of a text leads to it. -/
theorem foldlM_append_name {earlier : List String} {name : String}
    (hEarlier : ∀ component ∈ earlier, component = "" ∨ component = ".") (hName : IsName name)
    (hHeld : directory.get? name = some content) :
    (earlier ++ [name]).foldlM directory.follow .directory = .ok (.text content) := by
  induction earlier with
  | nil =>
      have hStep : directory.follow .directory name = .ok (.text content) :=
        follow_directory_eq_ok_iff.mpr (.inr (.inr ⟨hName, content, hHeld, rfl⟩))
      rw [List.nil_append, List.foldlM_cons, hStep]
      rfl
  | cons first earlier ih =>
      obtain ⟨hStays, hLater⟩ := List.forall_mem_cons.mp hEarlier
      have hStep : directory.follow .directory first = .ok .directory :=
        follow_directory_eq_ok_iff.mpr (.inl ⟨hStays, rfl⟩)
      rw [List.cons_append, List.foldlM_cons, hStep]
      exact ih hLater

/-- A path leads to a text exactly if the last of its components is the name of the text and the
earlier ones stay in the directory. -/
theorem foldlM_eq_text_iff :
    parts.foldlM directory.follow .directory = .ok (.text content) ↔
      ∃ earlier name, parts = earlier ++ [name] ∧
        (∀ component ∈ earlier, component = "" ∨ component = ".") ∧
        IsName name ∧ directory.get? name = some content := by
  refine ⟨exists_name_of_foldlM, ?_⟩
  rintro ⟨earlier, name, rfl, hEarlier, hName, hHeld⟩
  exact foldlM_append_name hEarlier hName hHeld

/-! ### Reading -/

/-- A text is read exactly under the paths that are not too long, do not begin with a slash and lead
from the directory to the text. -/
theorem files_eq_ok_iff :
    directory.files path = .ok content ↔
      path.utf8ByteSize ≤ maxPath ∧ path.toList.head? ≠ some '/' ∧
      ∃ earlier name, components path = earlier ++ [name] ∧
        (∀ component ∈ earlier, component = "" ∨ component = ".") ∧
        IsName name ∧ directory.get? name = some content := by
  rw [← foldlM_eq_text_iff]
  have hRead : directory.files path = .ok content ↔ directory.resolve path = .ok (.text content) := by
    unfold files read?
    cases directory.resolve path with
    | error error =>
        show (Except.error error.message : Except String String) = .ok content ↔ _
        simp
    | ok place =>
        cases place with
        | text held =>
            show (Except.ok held : Except String String) = .ok content ↔ _
            simp
        | _ =>
            show (Except.error ReadError.isDirectory.message : Except String String) = .ok content ↔ _
            simp
  rw [hRead]
  unfold resolve
  by_cases hEmpty : path = ""
  · subst hEmpty
    simp [components, follow, bind, Except.bind, pure, Except.pure]
  by_cases hLong : maxPath < path.utf8ByteSize
  · simp [hEmpty, hLong, Nat.not_le.mpr hLong]
  rw [if_neg hEmpty, if_neg hLong]
  unfold origin
  by_cases hSlash : path.toList.head? = some '/'
  · rw [if_pos hSlash]
    refine ⟨fun hLed => ?_, fun hAll => absurd hSlash hAll.2.1⟩
    cases eq_surroundings_of_foldlM hLed
  · rw [if_neg hSlash]
    exact ⟨fun hLed => ⟨Nat.not_lt.mp hLong, hSlash, hLed⟩, fun hAll => hAll.2.2⟩

/-- Under a name on its own its text is read, if the directory has one. -/
theorem files_of_isName (hName : IsName path) (hPlain : '/' ∉ path.toList) :
    directory.files path = .ok content ↔ directory.get? path = some content := by
  have hAlone : components path = [path] := by
    unfold components
    rw [List.splitOn_eq_singleton hPlain]
    simp
  have hSize : path.utf8ByteSize ≤ maxPath := Nat.le_trans hName.size_le (by decide)
  have hHead : path.toList.head? ≠ some '/' := fun hSlash =>
    hPlain (List.mem_of_mem_head? (Option.mem_def.mpr hSlash))
  rw [files_eq_ok_iff, hAlone]
  constructor
  · rintro ⟨-, -, earlier, name, hSplit, -, -, hHeld⟩
    cases earlier with
    | nil =>
        obtain rfl := (List.cons.inj hSplit).1
        exact hHeld
    | cons first earlier => exact absurd hSplit (by simp)
  · intro hHeld
    exact ⟨hSize, hHead, [], path, rfl, List.forall_mem_nil _, hName, hHeld⟩

end Directory

end CommandLine
end TokenNet

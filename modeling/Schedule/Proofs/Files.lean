import Schedule.Files

/-! # Whether there is something at a path

Looking up a path finds a file or a directory, or it fails. Most faults that show that there is
nothing also tell it, but not all do: a name of more bytes than a name may have is too long in every
directory, so that nothing can have it, and yet its fault does not tell this. Other faults, such as
that of a directory that may not be searched, leave open whether there is something.
-/

namespace Schedule

/-- The fault leaves no doubt that there is nothing at the path: it tells so, or its number is that
of paths which are too long for anything to have. -/
def FileFault.ShowsAbsence (fault : FileFault) : Prop :=
  fault.tellsAbsence = true ∨ fault.number = 36

namespace Files

variable {files : Files} {path : String} {fault : FileFault}

/-- Something is found at the path. -/
def Finds (files : Files) (path : String) : Prop :=
  path.contains '\x00' = false ∧ files.find path = .ok ()

/-- There is nothing at the path. -/
def Lacks (files : Files) (path : String) : Prop :=
  path.contains '\x00' = true ∨ ∃ fault, files.find path = .error fault ∧ fault.ShowsAbsence

/-- Looking up the path fails by a fault that does not tell that there is nothing. -/
def Hides (files : Files) (path : String) (fault : FileFault) : Prop :=
  path.contains '\x00' = false ∧ files.find path = .error fault ∧ fault.tellsAbsence = false

/-- Something is found at a path unless there is nothing or looking it up does not tell. -/
theorem finds_iff : files.Finds path ↔ ¬ files.Lacks path ∧ ∀ fault, ¬ files.Hides path fault := by
  unfold Finds Lacks Hides
  cases path.contains '\x00' with
  | true => simp
  | false =>
    cases files.find path with
    | ok => simp
    | error cause => cases absent : cause.tellsAbsence <;> simp [FileFault.ShowsAbsence, absent]

theorem has_eq_true_iff : files.has path = .ok true ↔ files.Finds path := by
  unfold has Finds
  cases path.contains '\x00' with
  | true => simp
  | false =>
    cases files.find path with
    | ok => simp
    | error cause => cases absent : cause.tellsAbsence <;> simp [absent]

theorem has_eq_error_iff : files.has path = .error fault ↔ files.Hides path fault := by
  constructor
  · intro told
    unfold has at told
    split at told
    · contradiction
    · next noNull =>
      split at told
      · contradiction
      · next cause found =>
        split at told
        · contradiction
        · next shown =>
          cases told
          exact ⟨Bool.eq_false_iff.mpr noNull, found, Bool.eq_false_iff.mpr shown⟩
  · rintro ⟨noNull, found, shown⟩
    unfold has
    simp only [noNull, found, shown, Bool.false_eq_true, if_false]

theorem has_eq_false_iff :
    files.has path = .ok false ↔ files.Lacks path ∧ ∀ fault, ¬ files.Hides path fault := by
  constructor
  · intro told
    have shown (fault : FileFault) : ¬ files.Hides path fault := fun hides => by
      cases (has_eq_error_iff.mpr hides).symm.trans told
    refine ⟨Classical.byContradiction fun other => ?_, shown⟩
    cases (has_eq_true_iff.mpr (finds_iff.mpr ⟨other, shown⟩)).symm.trans told
  · rintro ⟨lacks, shown⟩
    rcases outcome : files.has path with cause | (_ | _)
    · exact absurd (has_eq_error_iff.mp outcome) (shown cause)
    · rfl
    · exact absurd lacks (finds_iff.mp (has_eq_true_iff.mp outcome)).1

end Files

namespace Path

theorem parts_of_noSlash {cs : List Char} (noSlash : '/' ∉ cs) : parts cs = [cs] := by
  induction cs with
  | nil => rfl
  | cons c cs ih =>
    rw [List.mem_cons, not_or] at noSlash
    rw [parts, if_neg (Ne.symm noSlash.1), ih noSlash.2]

/-- The name of something in the working directory: a path that consists of one component. -/
structure IsName (name : String) : Prop where
  noSlash : '/' ∉ name.toList
  notEmpty : name ≠ ""
  notHere : name ≠ "."
  notParent : name ≠ ".."

/-- A path can be written down for the system if it has no null. -/
theorem contains_null_eq_false {path : String} (noNull : '\x00' ∉ path.toList) :
    path.contains '\x00' = false := by
  rw [String.contains_char_eq]
  simpa using noNull

namespace IsName

variable {name : String} {entries : List (String × Entry)} {entry : Entry} {content : ByteArray}

theorem root_eq (named : IsName name) : root name = "" := by
  have other (rest : List Char) : name.toList ≠ '/' :: rest := fun spelled =>
    named.noSlash (by rw [spelled]; exact List.mem_cons_self)
  unfold root
  split
  · next spelled => exact absurd spelled (other _)
  · next spelled => exact absurd spelled (other _)
  · next spelled => exact absurd spelled (other _)
  · rfl

theorem components_eq (named : IsName name) : components name = [name] := by
  rw [components, parts_of_noSlash named.noSlash]
  simp [named.notEmpty, named.notHere]

theorem plain_eq (named : IsName name) : plain name = name := by
  unfold plain
  rw [named.root_eq, named.components_eq, String.intercalate_singleton, String.empty_append]
  exact if_neg (by simpa using named.notEmpty)

/-- What has the name is found by it, if a name may be that long. -/
theorem locate_eq (named : IsName name) (fits : name.utf8ByteSize ≤ longestName)
    (there : entries.lookup name = some entry) :
    Entry.locate (.directory entries) name = .ok entry := by
  have short : ¬ longest < name.utf8ByteSize :=
    Nat.not_lt.mpr (Nat.le_trans fits (by decide))
  simp only [Entry.locate, named.root_eq, named.components_eq, if_neg short]
  rw [if_pos (by rfl)]
  simp only [Entry.follow, if_neg named.notParent, if_neg (Nat.not_lt.mpr fits), there]

theorem read_eq (named : IsName name) (fits : name.utf8ByteSize ≤ longestName)
    (there : entries.lookup name = some (.file content)) :
    (Entry.files (.directory entries)).read (plain name) = .ok content := by
  change Entry.contentAt (.directory entries) (plain name) = _
  rw [named.plain_eq, Entry.contentAt, named.locate_eq fits there]

theorem finds (named : IsName name) (noNull : '\x00' ∉ name.toList)
    (fits : name.utf8ByteSize ≤ longestName) (there : entries.lookup name = some entry) :
    (Entry.files (.directory entries)).Finds (plain name) := by
  rw [named.plain_eq]
  refine ⟨contains_null_eq_false noNull, ?_⟩
  change (Entry.locate (.directory entries) name).map _ = _
  rw [named.locate_eq fits there]
  rfl

end IsName

/-- The name of something in the working directory that is longer than a name may be. -/
structure IsLongName (name : String) : Prop where
  noSlash : '/' ∉ name.toList
  long : longestName < name.utf8ByteSize

namespace IsLongName

variable {name : String}

theorem ne_of_fits (long : IsLongName name) {short : String}
    (fits : short.utf8ByteSize ≤ longestName) : name ≠ short := by
  rintro rfl
  exact absurd long.long (Nat.not_lt.mpr fits)

theorem isName (long : IsLongName name) : IsName name :=
  ⟨long.noSlash, long.ne_of_fits (by decide), long.ne_of_fits (by decide),
    long.ne_of_fits (by decide)⟩

/-- It cannot be looked up, whatever is in the directory. -/
theorem locate_eq (long : IsLongName name) (entries : List (String × Entry)) :
    Entry.locate (.directory entries) name = .error (.nameTooLong name) := by
  unfold Entry.locate
  simp only [long.isName.root_eq, long.isName.components_eq]
  split
  · rfl
  · rw [if_pos (by rfl)]
    unfold Entry.follow
    simp only [if_neg long.isName.notParent, if_pos long.long]

theorem find_eq (long : IsLongName name) (entries : List (String × Entry)) :
    (Entry.files (.directory entries)).find name = .error (.nameTooLong name) := by
  change (Entry.locate (.directory entries) name).map _ = _
  rw [long.locate_eq]
  rfl

/-- Nothing has it. -/
theorem lacks (long : IsLongName name) (entries : List (String × Entry)) :
    (Entry.files (.directory entries)).Lacks name :=
  .inr ⟨_, long.find_eq entries, .inr rfl⟩

/-- Looking it up does not tell that there is nothing. -/
theorem hides (long : IsLongName name) (noNull : '\x00' ∉ name.toList)
    (entries : List (String × Entry)) :
    (Entry.files (.directory entries)).Hides name (.nameTooLong name) :=
  ⟨contains_null_eq_false noNull, long.find_eq entries, rfl⟩

end IsLongName

end Path

end Schedule

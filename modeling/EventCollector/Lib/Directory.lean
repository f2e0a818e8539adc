import EventCollector.Lib.Ledger

/-!
A directory of named files. A rename replaces the file that has the new name, and
appending creates a file that is not there. What all files hold together is measured
in any commutative monoid: bytes in all, or the bag of the records in them.
-/

structure Directory (Name Content : Type) where
  files : List (Name × Content)
  distinct : (files.map Prod.fst).Nodup

namespace Directory

open Ledger

variable {Name Content : Type} [DecidableEq Name]

def empty (Name Content : Type) : Directory Name Content := ⟨[], List.nodup_nil⟩

def find (directory : Directory Name Content) (name : Name) : Option Content :=
  (directory.files.find? (·.1 = name)).map Prod.snd

def remove (directory : Directory Name Content) (name : Name) : Directory Name Content where
  files := directory.files.filter (·.1 ≠ name)
  distinct := directory.distinct.sublist (List.filter_sublist.map _)

theorem remove_absent (directory : Directory Name Content) (name : Name) :
    name ∉ (directory.remove name).files.map Prod.fst := by
  simp [remove]

def put (directory : Directory Name Content) (name : Name) (content : Content) :
    Directory Name Content where
  files := (name, content) :: (directory.remove name).files
  distinct := List.nodup_cons.mpr ⟨directory.remove_absent name, (directory.remove name).distinct⟩

def rename (directory : Directory Name Content) (old new : Name) : Directory Name Content :=
  match directory.find old with
  | none => directory
  | some content => (directory.remove old).put new content

def append {Letter : Type} (directory : Directory Name (List Letter)) (name : Name)
    (letters : List Letter) : Directory Name (List Letter) :=
  directory.put name ((directory.find name).getD [] ++ letters)

@[simp] theorem find_put_same (directory : Directory Name Content) (name : Name)
    (content : Content) : (directory.put name content).find name = some content := by
  simp [find, put]

@[simp] theorem find_remove_same (directory : Directory Name Content) (name : Name) :
    (directory.remove name).find name = none := by
  simp [find, remove]

theorem find_remove_other (directory : Directory Name Content) {name other : Name}
    (different : other ≠ name) : (directory.remove name).find other = directory.find other := by
  simp only [find, remove, List.find?_filter]
  congr 2
  funext file
  by_cases same : file.1 = other <;> simp [same, different]

theorem find_put_other (directory : Directory Name Content) {name other : Name}
    (content : Content) (different : other ≠ name) :
    (directory.put name content).find other = directory.find other := by
  rw [← find_remove_other directory different]
  simp [find, put, different.symm]

theorem rename_found {directory : Directory Name Content} {old : Name} {content : Content}
    (found : directory.find old = some content) (new : Name) :
    directory.rename old new = (directory.remove old).put new content := by
  simp only [rename, found]

/-! What the files hold together. -/

variable {Amount : Type} [AddCommMonoid Amount]

def total (weight : Content → Amount) (directory : Directory Name Content) : Amount :=
  tally (fun file => weight file.2) directory.files

def held (weight : Content → Amount) (content : Option Content) : Amount :=
  (content.map weight).getD 0

omit [DecidableEq Name] in
theorem total_congr {weight other : Content → Amount} {directory : Directory Name Content}
    (same : ∀ file ∈ directory.files, weight file.2 = other file.2) :
    directory.total weight = directory.total other :=
  congrArg List.sum (List.map_congr_left same)

theorem tally_remove (weight : Content → Amount) (name : Name) {files : List (Name × Content)}
    (distinct : (files.map Prod.fst).Nodup) :
    tally (fun file => weight file.2) files =
      tally (fun file => weight file.2) (files.filter (·.1 ≠ name)) +
        held weight ((files.find? (·.1 = name)).map Prod.snd) := by
  induction files with
  | nil => simp [tally, held]
  | cons file rest ih =>
      obtain ⟨absent, distinctRest⟩ := List.nodup_cons.mp distinct
      by_cases same : file.1 = name
      · have others : rest.filter (·.1 ≠ name) = rest := by
          rw [List.filter_eq_self]
          intro other member
          have different : other.1 ≠ name := fun named =>
            absent (same ▸ named ▸ List.mem_map_of_mem member)
          simpa using different
        rw [tally_cons, List.filter_cons_of_neg (by simpa using same), others,
          List.find?_cons_of_pos (by simpa using same), add_comm]
        rfl
      · rw [tally_cons, List.filter_cons_of_pos (by simpa using same),
          List.find?_cons_of_neg (by simpa using same), tally_cons, ih distinctRest, add_assoc]

theorem total_remove (weight : Content → Amount) (directory : Directory Name Content)
    (name : Name) : directory.total weight =
      (directory.remove name).total weight + held weight (directory.find name) :=
  tally_remove weight name directory.distinct

theorem total_put (weight : Content → Amount) (directory : Directory Name Content) (name : Name)
    (content : Content) : (directory.put name content).total weight =
      weight content + (directory.remove name).total weight := tally_cons ..

theorem total_append {Letter : Type} (weight : List Letter → Amount) (nothing : weight [] = 0)
    (additive : ∀ first second, weight (first ++ second) = weight first + weight second)
    (directory : Directory Name (List Letter)) (name : Name) (letters : List Letter) :
    (directory.append name letters).total weight = directory.total weight + weight letters := by
  have before : weight ((directory.find name).getD []) = held weight (directory.find name) := by
    cases directory.find name with
    | none => exact nothing
    | some content => rfl
  rw [append, total_put, additive, before, total_remove weight directory name]
  ac_rfl

/-- A rename loses what the file it replaces held, and nothing else. -/
theorem total_rename (weight : Content → Amount) {directory : Directory Name Content}
    {old new : Name} (different : old ≠ new) {content : Content}
    (found : directory.find old = some content) :
    (directory.rename old new).total weight + held weight (directory.find new) =
      directory.total weight := by
  rw [rename_found found, total_put, total_remove weight directory old,
    total_remove weight (directory.remove old) new, find_remove_other directory different.symm, found]
  simp only [held, Option.map_some, Option.getD_some]
  ac_rfl

/-! Reading every file in another form. -/

variable {Form : Type}

def map (form : Content → Form) (directory : Directory Name Content) : Directory Name Form where
  files := directory.files.map fun file => (file.1, form file.2)
  distinct := by
    rw [List.map_map]
    exact directory.distinct

theorem find_map (form : Content → Form) (directory : Directory Name Content) (name : Name) :
    (directory.map form).find name = (directory.find name).map form := by
  simp only [find, map, List.find?_map, Option.map_map]
  rfl

theorem remove_map (form : Content → Form) (directory : Directory Name Content) (name : Name) :
    (directory.map form).remove name = (directory.remove name).map form := by
  simp only [remove, map, List.filter_map, Function.comp_def]

theorem put_map (form : Content → Form) (directory : Directory Name Content) (name : Name)
    (content : Content) : (directory.map form).put name (form content) =
      (directory.put name content).map form := by
  simp only [put, remove_map]
  rfl

theorem rename_map (form : Content → Form) (directory : Directory Name Content)
    (old new : Name) : (directory.map form).rename old new =
      (directory.rename old new).map form := by
  simp only [rename, find_map]
  cases directory.find old with
  | none => rfl
  | some content => simp only [Option.map_some, remove_map, put_map]

theorem append_map {Letter Sign : Type} (form : List Letter → List Sign) (nothing : form [] = [])
    (additive : ∀ first second, form (first ++ second) = form first ++ form second)
    (directory : Directory Name (List Letter)) (name : Name) (letters : List Letter) :
    (directory.map form).append name (form letters) = (directory.append name letters).map form := by
  have before : ((directory.map form).find name).getD [] =
      form ((directory.find name).getD []) := by
    rw [find_map]
    cases directory.find name with
    | none => exact nothing.symm
    | some content => rfl
  rw [append, before, ← additive, put_map]
  rfl

omit [DecidableEq Name] in
theorem total_map (weight : Form → Amount) (form : Content → Form)
    (directory : Directory Name Content) :
    (directory.map form).total weight = directory.total fun content => weight (form content) := by
  simp only [total, map, tally, List.map_map, Function.comp_def]

omit [DecidableEq Name] in
/-- What is measured through a homomorphism is measured file by file. -/
theorem map_total {Other : Type} [AddCommMonoid Other] (measure : Amount →+ Other)
    (weight : Content → Amount) (directory : Directory Name Content) :
    measure (directory.total weight) = directory.total fun content => measure (weight content) := by
  simp only [total, tally, map_list_sum, List.map_map, Function.comp_def]

end Directory

import Prototyper.Files.Tree
import Prototyper.Proofs.Lookup
import Prototyper.Proofs.Settings.Document
import Prototyper.Settings.Storage

/-!
# Settings that are saved can be loaded

Saving writes a document to a file and loading reads it back. `Files.KeepsWrites` is what this takes
of the place where files are kept: what has been written at a path is what is then read from there.
Loading undoes saving wherever that law holds (`load_save`).

In a tree it holds. A file that has been written is found at its path, for it stands where there was
no directory, so the way to it is the same as before, and its content is what was written.

That the document is one of TOML rests on the TOML assumption (see `Toml.Basic`). The law of files
is one of ordinary files: a device may take what is written and give nothing back.
-/

namespace Prototyper

namespace FileTree

/-! ## A file that is put somewhere -/

/-- To take out what stands at one place changes nothing at others. -/
lemma lookup_filter_ne {place place' : Place} (h : place' ≠ place) (nodes : List (Place × Node)) :
    (nodes.filter fun p => p.1 != place).lookup place' = nodes.lookup place' := by
  induction nodes with
  | nil => rfl
  | cons p nodes ih =>
    obtain ⟨place'', node⟩ := p
    by_cases same : place'' = place
    · subst same
      have other : (place' == place'') = false := by simpa using h
      simp [List.lookup_cons, other, ih]
    · simp [same, List.lookup_cons, ih]

/-- To put something at one place changes nothing at others. -/
lemma node?_put_of_ne (t : FileTree) {place place' : Place} (node : Node) (h : place' ≠ place) :
    (t.put place node).node? place' = t.node? place' := by
  have other : (place' == place) = false := by simpa using h
  simp only [node?, put, List.lookup_cons, other, lookup_filter_ne h]

variable {t : FileTree} {place : Place}

/-- A file that is put where there was no directory stands there. -/
lemma node?_put_free (free : t.hasDirectory place = false) (content : ByteArray) :
    (t.put place (.file content)).node? place = some (.file content) := by
  have nonroot : place ≠ [] := by
    rintro rfl
    cases free
  exact node?_put_self t (.file content) nonroot

/-- A file that is put where there was no directory leaves the directories as they are. -/
lemma hasDirectory_put (free : t.hasDirectory place = false) (content : ByteArray)
    (place' : Place) :
    (t.put place (.file content)).hasDirectory place' = t.hasDirectory place' := by
  by_cases same : place' = place
  · subst same
    rw [free, hasDirectory, node?_put_free free]
    rfl
  · rw [hasDirectory, node?_put_of_ne t _ same, hasDirectory]

/-- A file that is put somewhere removes nothing. -/
lemma isNone_node?_put (free : t.hasDirectory place = false) (content : ByteArray)
    (place' : Place) (h : (t.node? place').isNone = false) :
    ((t.put place (.file content)).node? place').isNone = false := by
  by_cases same : place' = place
  · subst same
    rw [node?_put_free free]
    rfl
  · rwa [node?_put_of_ne t _ same]

/-- A name leads where it did before a file was put somewhere. -/
lemma step_put (free : t.hasDirectory place = false) (content : ByteArray)
    {directory place' : Place} {name : String} (h : t.step directory name = .ok place') :
    (t.put place (.file content)).step directory name = .ok place' := by
  have present := isNone_node?_put free content (name :: directory)
  simp only [step, hasDirectory_put free] at h ⊢
  split_ifs at h ⊢ <;> simp_all

/-- Names lead where they did before a file was put somewhere. -/
lemma foldlM_step_put (free : t.hasDirectory place = false) (content : ByteArray)
    {names : List String} {first last : Place} (h : names.foldlM t.step first = .ok last) :
    names.foldlM (t.put place (.file content)).step first = .ok last := by
  induction names generalizing first with
  | nil => exact h
  | cons name names ih =>
    rw [List.foldlM_cons] at h ⊢
    obtain ⟨next, one, others⟩ := bind_eq_ok_iff.1 h
    exact bind_eq_ok_iff.2 ⟨next, step_put free content one, ih others⟩

/-! ## Files that are written -/

/-- A path leads to a name in a directory, where there may be something or not. -/
structure Ends (t : FileTree) (path : String) (directory : Place) (name : String) : Prop where
  outer : ∃ first, t.start path = .ok first ∧
    (Path.names path).dropLast.foldlM t.step first = .ok directory
  inside : t.hasDirectory directory = true
  last : (Path.names path).getLast? = some name
  noDot : name ≠ "."
  noDots : name ≠ ".."
  short : name.utf8ByteSize ≤ nameLimit

/-- The end of a path that is found is a name in a directory. -/
lemma ends_of_findEnd {path : String} {directory : Place} {name : String}
    (h : t.findEnd path = .ok (directory, some name)) : t.Ends path directory name := by
  rw [findEnd] at h
  obtain ⟨first, start, h⟩ := bind_eq_ok_iff.1 h
  obtain ⟨directory', outer, h⟩ := bind_eq_ok_iff.1 h
  cases inside : t.hasDirectory directory' with
  | false =>
    simp only [inside] at h
    cases h
  | true =>
    simp only [inside, Bool.not_true, Bool.false_eq_true, if_false] at h
    split at h
    case h_4 noDot noDots last =>
      split at h
      case isTrue => cases h
      case isFalse short =>
        cases h
        exact ⟨⟨first, start, outer⟩, inside, last, noDot, noDots, Nat.le_of_not_gt short⟩
    -- dots at the end are no name
    all_goals cases h

/-- A file can be at the end of a path where there is no directory. -/
lemma ends_of_findFile {path : String} (h : t.findFile path = .ok place) : ∃ directory name,
    place = name :: directory ∧ t.Ends path directory name ∧ Path.endsWithSlash path = false ∧
      t.hasDirectory place = false := by
  rw [findFile] at h
  obtain ⟨⟨directory, last⟩, ended, h⟩ := bind_eq_ok_iff.1 h
  cases last with
  | none => cases h
  | some name =>
    simp only at h
    split at h
    case isTrue => cases h
    case isFalse kept =>
      cases h
      simp only [Bool.or_eq_true, not_or, Bool.not_eq_true] at kept
      exact ⟨directory, name, rfl, ends_of_findEnd ended, kept⟩

/-- A path leads to the file that has been put at its end. -/
lemma Ends.find_put {path : String} {directory : Place} {name : String}
    (h : t.Ends path directory name) (noSlash : Path.endsWithSlash path = false)
    (free : t.hasDirectory (name :: directory) = false) (content : ByteArray) :
    (t.put (name :: directory) (.file content)).find path = .ok (name :: directory) := by
  obtain ⟨first, start, outer⟩ := h.outer
  have last : (t.put (name :: directory) (.file content)).step directory name =
      .ok (name :: directory) := by
    rw [step, hasDirectory_put free, h.inside, node?_put_free free]
    simp [h.noDot, h.noDots, h.short]
  have way : (Path.names path).foldlM (t.put (name :: directory) (.file content)).step first =
      .ok (name :: directory) := by
    rw [← List.dropLast_append_getLast? name h.last, List.foldlM_append]
    refine bind_eq_ok_iff.2 ⟨directory, foldlM_step_put free content outer, ?_⟩
    rw [List.foldlM_cons]
    exact bind_eq_ok_iff.2 ⟨_, last, rfl⟩
  refine bind_eq_ok_iff.2 ⟨first, start, bind_eq_ok_iff.2 ⟨_, way, ?_⟩⟩
  rw [noSlash]
  rfl

/-- What has been written to a file is read from it. -/
lemma read_of_write {t' : FileTree} {path : String} {content : ByteArray}
    (h : t.write path content = .ok t') : t'.read path = .ok content := by
  rw [write] at h
  obtain ⟨place, found, h⟩ := bind_eq_ok_iff.1 h
  cases h
  obtain ⟨directory, name, rfl, ends, noSlash, free⟩ := ends_of_findFile found
  refine bind_eq_ok_iff.2 ⟨_, ends.find_put noSlash free content, ?_⟩
  rw [node?_put_free free]
  rfl

/-! ## Operations -/

/-- What an operation on a tree gives, and the tree after it. -/
def run {ε α : Type} (t : FileTree) (operation : ExceptT ε (StateM FileTree) α) :
    Except ε α × FileTree :=
  operation.run.run t

/-- An operation goes on from the tree that the one before it leaves, unless that one fails. -/
lemma run_bind {ε α β : Type} (t : FileTree) (x : ExceptT ε (StateM FileTree) α)
    (f : α → ExceptT ε (StateM FileTree) β) :
    t.run (x >>= f) =
      match t.run x with
      | (.ok a, t') => t'.run (f a)
      | (.error e, t') => (.error e, t') := by
  have inner : t.run (x >>= f) = (fun p => ExceptT.bindCont f p.1 p.2) (t.run x) := rfl
  rw [inner]
  rcases t.run x with ⟨_ | _, _⟩ <;> rfl

/-- A change leaves the changed tree, or the tree that there was if it fails. -/
lemma run_change (t : FileTree) (operation : FileTree → Except FileError FileTree) :
    t.run (change operation) =
      match operation t with
      | .ok t' => (.ok (), t')
      | .error e => (.error e, t) := by
  have current : t.run (get : ExceptT FileError (StateM FileTree) FileTree) = (.ok t, t) := rfl
  rw [change, run_bind, current]
  dsimp only
  cases operation t <;> rfl

end FileTree

/-! ## Places that keep what is written -/

namespace Files

/-- What has been written at a path is what is then read from there, and reading changes nothing. -/
class KeepsWrites (m : Type → Type) [Monad m] [Files m] : Prop where
  read_of_write (path : String) (content : ByteArray) :
    (do write path content; observing (read path) :
        ExceptT FileError m (Except FileError ByteArray)) =
      do write path content; return .ok content

/-- To observe an operation is to run it and to take what it gives for a value. -/
lemma run_observing {m : Type → Type} [Monad m] [LawfulMonad m] {ε α : Type}
    (x : ExceptT ε m α) : (observing x).run = Except.ok <$> x.run := by
  change (x.run >>= _) >>= _ = _
  rw [bind_assoc, map_eq_pure_bind]
  refine bind_congr fun found => ?_
  cases found with
  | ok a => exact (pure_bind _ _).trans rfl
  | error e => exact pure_bind _ _

/-- Whatever is done with what is read from a file, is done with what has just been written to
it. -/
lemma run_write_bind {m : Type → Type} [Monad m] [LawfulMonad m] [Files m] [KeepsWrites m]
    {α : Type} (path : String) (content : ByteArray)
    (found : Except FileError ByteArray → m α) (failed : FileError → m α) :
    (do match ← (write path content : ExceptT FileError m Unit).run with
        | .ok _ => (read path : ExceptT FileError m ByteArray).run >>= found
        | .error e => failed e) =
      (do match ← (write path content : ExceptT FileError m Unit).run with
          | .ok _ => found (.ok content)
          | .error e => failed e) := by
  -- both sides are the two sides of the law, and go on from there in the same way
  have law := congrArg (fun x => ExceptT.run x >>= fun r => r.casesOn failed found)
    (KeepsWrites.read_of_write (m := m) path content)
  simp only [ExceptT.run_bind, run_observing, bind_assoc] at law
  refine Eq.trans (bind_congr fun written => ?_) (law.trans (bind_congr fun written => ?_))
  · cases written <;> simp
  · cases written <;> simp

end Files

/-- A tree keeps what is written to it. -/
instance : Files.KeepsWrites (StateM FileTree) where
  read_of_write path content := by
    refine ExceptT.ext (funext fun t => ?_)
    change t.run _ = t.run _
    have written : t.run (Files.write path content) = _ :=
      FileTree.run_change t fun t => t.write path content
    rw [FileTree.run_bind, FileTree.run_bind, written]
    -- only a write that succeeds is followed by a read
    cases kept : t.write path content with
    | error e => rfl
    | ok t' =>
      have found : t'.run (Files.read path) = (.ok content, t') :=
        congrArg (·, t') (FileTree.read_of_write kept)
      change t'.run (observing (Files.read path)) = _
      rw [FileTree.run, Files.run_observing]
      exact congrArg (fun p => (Except.ok p.1, p.2)) found

/-! ## Settings -/

/-- The bytes of a text are read back as the text. -/
lemma fromUTF8?_toUTF8 (s : String) : String.fromUTF8? s.toUTF8 = some s := by
  have valid : s.toUTF8.IsValidUTF8 := s.isValidUTF8
  rw [String.fromUTF8?, dif_pos valid]
  rfl

namespace Settings

section

variable {m : Type → Type} [Monad m] [LawfulMonad m] [Files m]

/-- Loading begins with the file, and reads settings back from their document. -/
lemma load_eq (path : String) : ∃ loaded : Except FileError ByteArray → m (Except Fault Settings),
    (load path : ExceptT Fault m Settings).run =
      (Files.read path : ExceptT FileError m ByteArray).run >>= loaded ∧
    ∀ s : Settings, loaded (.ok (String.ofList s.text).toUTF8) = pure (.ok s) := by
  unfold load Files.readText
  simp only [ExceptT.run_bind, ExceptT.run_adapt, map_eq_pure_bind, bind_assoc]
  refine ⟨_, rfl, fun s => ?_⟩
  simp only [fromUTF8?_toUTF8, pure_bind, ExceptT.run_pure, Except.mapError, String.toList_ofList,
    ofText_text]

/-- Saving ends with the document. -/
lemma save_eq (s : Settings) (path : String) :
    ∃ (directories : ExceptT Fault m Unit) (fault : FileError → Fault),
      save s path = directories >>= fun _ => ExceptT.adapt fault
        (Files.write path (String.ofList s.text).toUTF8 : ExceptT FileError m Unit) := by
  unfold save
  split
  case h_1 => exact ⟨_, _, rfl⟩
  case h_2 => exact ⟨pure (), _, (pure_bind () fun _ => _).symm⟩

/-- Loading after saving gives the settings that were saved, where writes are kept. -/
lemma bind_load [Files.KeepsWrites m] (s : Settings) (path : String) :
    (do save s path; load path : ExceptT Fault m Settings) = (do save s path; return s) := by
  obtain ⟨loaded, loads, reads⟩ := load_eq (m := m) path
  obtain ⟨directories, fault, saves⟩ := save_eq (m := m) s path
  rw [saves, bind_assoc, bind_assoc]
  refine bind_congr fun _ => ExceptT.ext ?_
  have kept := Files.run_write_bind path (String.ofList s.text).toUTF8 loaded fun e =>
    pure (.error (fault e))
  rw [reads] at kept
  simp only [ExceptT.run_bind, ExceptT.run_adapt, loads, map_eq_pure_bind, bind_assoc, pure_bind]
  refine Eq.trans (bind_congr fun written => ?_) (kept.trans (bind_congr fun written => ?_))
  · cases written <;> rfl
  · cases written <;> rfl

end

/-- Settings that have been saved at a path, whatever texts are in them, are loaded from there as
they were, and loading leaves the files alone: wherever writes are kept, and so in a tree. -/
theorem load_save (s : Settings) (path : String) :
    (∀ (m : Type → Type) [Monad m] [LawfulMonad m] [Files m] [Files.KeepsWrites m],
      (do save s path; load path : ExceptT Fault m Settings) = do save s path; return s) ∧
    ∀ t t' : FileTree, t.run (save s path) = (.ok (), t') →
      t'.run (load path) = (.ok s, t') := by
  refine ⟨fun m => bind_load s path, fun t t' saved => ?_⟩
  have same := congrArg t.run (bind_load (m := StateM FileTree) s path)
  rwa [FileTree.run_bind, FileTree.run_bind, saved] at same

/-- Settings with an empty text, and one with quotes of both kinds, a line break, a backslash, a
control character and a letter of two bytes. -/
def awkward : Settings where
  includeDeclarations := false
  output := .json
  log := {
    filter := some ""
    file := some "\"\"\"a\\ \n'''\x01é\"" }

/-- The tree after `awkward` has been saved in a directory that is made for it. -/
def awkwardTree : FileTree :=
  ((FileTree.ofName "home").run (save awkward "nested/config.toml")).2

/-- What is hard to quote comes back as it was. -/
theorem load_save_awkward :
    (FileTree.ofName "home").run (save awkward "nested/config.toml") = (.ok (), awkwardTree) ∧
      awkwardTree.run (load "nested/config.toml") = (.ok awkward, awkwardTree) := by
  have saved : (FileTree.ofName "home").run (save awkward "nested/config.toml") =
      (.ok (), awkwardTree) := rfl
  exact ⟨saved, (load_save awkward _).2 _ _ saved⟩

end Settings

end Prototyper

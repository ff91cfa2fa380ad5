import CatalogSearch.Catalog.Load
import Mathlib.Data.List.Basic

/-!
# The first load of a catalog

A catalog that is missing is fetched once.  If nothing is fetched, nothing is
left at its path, and a later load takes what its source gives then.  What is
fetched stays, whatever becomes of it: a later load reads it again and ends as
the first one did, in the same records or in the same fault, and asks no source.
All this goes for whatever any source gives, as long as no transfer breaks off
midway.
-/

namespace CatalogSearch

namespace Files

/-!
## Files and directories
-/

theorem isBelow_iff (path ancestor : String) :
    isBelow path ancestor = true <-> ancestor.toList ++ ['/'] <+: path.toList := by
  rw [isBelow, String.startsWith_string_iff, String.toList_append]
  rfl

theorem not_isBelow_of_length_le {path ancestor : String}
    (h : path.toList.length ≤ ancestor.toList.length) : isBelow path ancestor = false := by
  cases hbelow : isBelow path ancestor with
  | false => rfl
  | true =>
      have hlength := ((isBelow_iff path ancestor).mp hbelow).length_le
      rw [List.length_append, List.length_singleton] at hlength
      omega

/-- A path is not below the directory that it lies in, and is not that directory. -/
theorem parentPath_apart {path : String} (h : path ∉ standing) :
    parentPath path ≠ path ∧ isBelow (parentPath path) path = false := by
  have hother : path ≠ "." ∧ path ≠ "/" := by
    simpa [standing] using h
  have hshorter : (path.toList.reverse.dropWhile (· != '/')).length ≤ path.toList.length := by
    have hsuffix : path.toList.reverse.dropWhile (· != '/') <:+ path.toList.reverse :=
      List.dropWhile_suffix _
    exact Nat.le_trans hsuffix.length_le (Nat.le_of_eq List.length_reverse)
  unfold parentPath
  split
  -- the current directory, the root, or a shorter path
  · refine ⟨hother.1.symm, ?_⟩
    cases hbelow : isBelow "." path with
    | false => rfl
    | true =>
        have hslash := ((isBelow_iff "." path).mp hbelow).subset
          (List.mem_append_right _ List.mem_cons_self)
        exact absurd hslash (by decide)
  · rename_i hroot
    rw [hroot] at hshorter
    exact ⟨hother.2.symm, not_isBelow_of_length_le hshorter⟩
  · rename_i last parent _ hparent
    rw [hparent, List.length_cons] at hshorter
    have hlength : (String.ofList parent.reverse).toList.length < path.toList.length := by
      rw [String.toList_ofList, List.length_reverse]
      omega
    refine ⟨fun heq => ?_, not_isBelow_of_length_le (Nat.le_of_lt hlength)⟩
    rw [heq] at hlength
    exact Nat.lt_irrefl _ hlength

theorem not_mem_standing_of_missing {files : Files} {path : String}
    (h : files.hasPath path = false) : path ∉ standing := by
  intro hmem
  have hdirectory : (files.directories ++ standing).contains path = true :=
    List.contains_iff_mem.mpr (List.mem_append_right _ hmem)
  rw [hasPath, isDirectory, hdirectory, Bool.or_true, Bool.or_true] at h
  cases h

theorem hasPath_makeDirectory_parentPath {files : Files} {path : String}
    (h : files.hasPath path = false) :
    (files.makeDirectory (parentPath path)).hasPath path = false := by
  rcases parentPath_apart (not_mem_standing_of_missing h) with ⟨hne, hbelow⟩
  simp only [hasPath, isDirectory, Bool.or_eq_false_iff] at h ⊢
  rcases h with ⟨hcontent, hany, hcontains⟩
  refine ⟨hcontent, ?_, ?_⟩
  · rw [makeDirectory, List.cons_append, List.any_cons, hbelow, hany]
    rfl
  · rw [makeDirectory, List.cons_append, List.contains_cons, hcontains, Bool.or_false]
    exact beq_false_of_ne hne.symm

@[simp] theorem content?_put (files : Files) (path : String) (content : ByteArray) :
    (files.put path content).content? path = some content := by
  have hothers : (files.contents.filter fun entry => entry.1 != path).lookup path = none := by
    rw [List.lookup_eq_none_iff]
    intro entry hmem
    have hne : (entry.1 != path) = true := (List.mem_filter.mp hmem).2
    exact bne_iff_ne.mpr (bne_iff_ne.mp hne).symm
  rw [content?, put, List.lookup_append, hothers, Option.none_or]
  exact List.lookup_cons_self

theorem content?_of_missing {files : Files} {path : String} (h : files.hasPath path = false) :
    files.content? path = none := by
  rw [hasPath, Bool.or_eq_false_iff] at h
  exact Option.isNone_iff_eq_none.mp (Option.isSome_eq_false_iff.mp h.1)

theorem hasPath_of_content? {files : Files} {path : String} {content : ByteArray}
    (h : files.content? path = some content) : files.hasPath path = true := by
  rw [hasPath, h]
  rfl

/-- Files that are the same at a path and around it: what is in its way, if anything. -/
structure SameAt (path : String) (files later : Files) : Prop where
  content_eq : later.content? path = files.content? path
  hasPath_eq : later.hasPath path = files.hasPath path
  obstacle_eq : later.obstacle? path = files.obstacle? path

theorem SameAt.refl (path : String) (files : Files) : SameAt path files files :=
  ⟨rfl, rfl, rfl⟩

end Files

namespace Catalog

/-!
## One load
-/

/-- The content that is put at the path of a missing catalog, if any is: it takes a source, a place
for the file and something that is fetched. -/
def arriving? (fetched : Except FetchError ByteArray) (files : Files) (path url : String) :
    Option ByteArray :=
  if url == "" || (files.obstacle? path).isSome then none else fetched.toOption

def IsWhole (fetched : Except FetchError ByteArray) : Prop :=
  forall received : ByteArray, fetched ≠ .error (.brokenOff received)

variable {fetched : Except FetchError ByteArray} {files : Files} {path url : String}
  {content : ByteArray}

theorem arriving?_eq_some_iff :
    arriving? fetched files path url = some content <->
      url ≠ "" ∧ files.obstacle? path = none ∧ fetched = .ok content := by
  unfold arriving?
  cases fetched <;> by_cases hurl : url = "" <;> cases files.obstacle? path <;>
    simp [hurl, Except.toOption]

theorem loadFetched_of_content? (fetched : Except FetchError ByteArray) (url : String)
    (h : files.content? path = some content) :
    loadFetched fetched files path url = (readContent path content, files) := by
  have hopen : files.openFile path = .ok content := by
    rw [Files.openFile, h]
  rw [loadFetched, ensureFile, if_pos (Files.hasPath_of_content? h)]
  simp only [readFile, hopen]

theorem loadFetched_of_arriving (hmissing : files.hasPath path = false)
    (h : arriving? fetched files path url = some content) :
    loadFetched fetched files path url =
      (readContent path content,
        (files.makeDirectory (Files.parentPath path)).put path content) := by
  rcases arriving?_eq_some_iff.mp h with ⟨hurl, hobstacle, rfl⟩
  have hopen : ((files.makeDirectory (Files.parentPath path)).put path content).openFile path =
      .ok content := by
    rw [Files.openFile, Files.content?_put]
  rw [loadFetched, ensureFile, if_neg (Bool.not_eq_true _ ▸ hmissing),
    if_neg (fun heq => hurl (eq_of_beq heq)), hobstacle]
  simp only [readFile, hopen]

/-- If nothing is fetched, the load fails and leaves the path as it was. -/
theorem loadFetched_of_not_arriving (hmissing : files.hasPath path = false)
    (hwhole : IsWhole fetched) (h : arriving? fetched files path url = none) :
    (exists error, (loadFetched fetched files path url).1 = .plain (.error error)) ∧
      Files.SameAt path files (loadFetched fetched files path url).2 := by
  have hmade : Files.SameAt path files (files.makeDirectory (Files.parentPath path)) :=
    ⟨rfl, (Files.hasPath_makeDirectory_parentPath hmissing).trans hmissing.symm, rfl⟩
  by_cases hurl : url = ""
  · rw [loadFetched, ensureFile, if_neg (Bool.not_eq_true _ ▸ hmissing),
      if_pos (beq_iff_eq.mpr hurl)]
    exact ⟨⟨_, rfl⟩, .refl path files⟩
  · rw [loadFetched, ensureFile, if_neg (Bool.not_eq_true _ ▸ hmissing),
      if_neg (fun heq => hurl (eq_of_beq heq))]
    cases hobstacle : files.obstacle? path with
    | some obstacle => cases obstacle <;> exact ⟨⟨_, rfl⟩, .refl path files⟩
    | none =>
        cases fetched with
        | ok content =>
            have harrives : arriving? (.ok content) files path url = some content :=
              arriving?_eq_some_iff.mpr ⟨hurl, hobstacle, rfl⟩
            rw [h] at harrives
            cases harrives
        | error cause =>
            cases cause with
            | noScheme => exact ⟨⟨_, rfl⟩, hmade⟩
            | unreachable => exact ⟨⟨_, rfl⟩, hmade⟩
            | brokenOff received => exact absurd rfl (hwhole received)

/-!
## Later loads
-/

/-- What the first load of a catalog leaves to later ones. -/
structure SettlesPath (fetched : Except FetchError ByteArray) (files : Files) (path url : String) :
    Prop where
  /-- What is there afterwards is what arrived, whatever became of it. -/
  left : (loadFetched fetched files path url).2.content? path = arriving? fetched files path url ∧
    (loadFetched fetched files path url).2.hasPath path =
      (arriving? fetched files path url).isSome
  /-- A load without a content fails, and a later one takes what its source gives then, unless a
  file is in the way. -/
  retried : arriving? fetched files path url = none ->
    (exists error, (loadFetched fetched files path url).1 = .plain (.error error)) ∧
      forall (later : Files) (url' : String) (content : ByteArray),
        Files.SameAt path (loadFetched fetched files path url).2 later -> url' ≠ "" ->
          files.obstacle? path = none ->
            (loadFetched (.ok content) later path url').1 = readContent path content
  /-- A content that arrived is read, and every later load ends in the same way, with whatever
  source. -/
  repeated : forall content : ByteArray, arriving? fetched files path url = some content ->
    (loadFetched fetched files path url).1 = readContent path content ∧
      forall (later : Files) (fetched' : Except FetchError ByteArray) (url' : String),
        Files.SameAt path (loadFetched fetched files path url).2 later ->
          (loadFetched fetched' later path url').1 = (loadFetched fetched files path url).1
  /-- A catalog that was loaded is loaded again without a source. -/
  kept : forall catalog : Catalog, (loadFetched fetched files path url).1.value = .ok catalog ->
    forall (later : Files) (fetched' : Except FetchError ByteArray),
      Files.SameAt path (loadFetched fetched files path url).2 later ->
        (loadFetched fetched' later path "").1.value = .ok catalog

theorem loadFetched_repeated (hmissing : files.hasPath path = false)
    (h : arriving? fetched files path url = some content) {later : Files}
    (hlater : Files.SameAt path (loadFetched fetched files path url).2 later)
    (fetched' : Except FetchError ByteArray) (url' : String) :
    (loadFetched fetched' later path url').1 = (loadFetched fetched files path url).1 := by
  have hcontent := hlater.content_eq
  rw [loadFetched_of_arriving hmissing h, Files.content?_put] at hcontent
  rw [loadFetched_of_content? fetched' url' hcontent, loadFetched_of_arriving hmissing h]

/-- A catalog that is missing is fetched once, and what was fetched decides every later load. -/
theorem firstLoad_settlesPath (fetched : Except FetchError ByteArray) (files : Files)
    (path url : String) (hmissing : files.hasPath path = false) (hwhole : IsWhole fetched) :
    SettlesPath fetched files path url := by
  constructor
  · cases harriving : arriving? fetched files path url with
    | none =>
        have hsame := (loadFetched_of_not_arriving hmissing hwhole harriving).2
        rw [hsame.content_eq, hsame.hasPath_eq, hmissing]
        exact ⟨Files.content?_of_missing hmissing, rfl⟩
    | some content =>
        rw [loadFetched_of_arriving hmissing harriving]
        have hcontent :=
          Files.content?_put (files.makeDirectory (Files.parentPath path)) path content
        exact ⟨hcontent, Files.hasPath_of_content? hcontent⟩
  · intro hnothing
    rcases loadFetched_of_not_arriving hmissing hwhole hnothing with ⟨herror, hsame⟩
    refine ⟨herror, fun later url' content hlater hurl hobstacle => ?_⟩
    have hmissing' : later.hasPath path = false := by
      rw [hlater.hasPath_eq, hsame.hasPath_eq, hmissing]
    have harriving : arriving? (.ok content) later path url' = some content := by
      rw [arriving?_eq_some_iff, hlater.obstacle_eq, hsame.obstacle_eq]
      exact ⟨hurl, hobstacle, rfl⟩
    rw [loadFetched_of_arriving hmissing' harriving]
  · intro content harriving
    refine ⟨congrArg Prod.fst (loadFetched_of_arriving hmissing harriving), ?_⟩
    intro later fetched' url' hlater
    exact loadFetched_repeated hmissing harriving hlater fetched' url'
  · intro catalog hcatalog later fetched' hlater
    cases harriving : arriving? fetched files path url with
    | none =>
        rcases (loadFetched_of_not_arriving hmissing hwhole harriving).1 with ⟨error, herror⟩
        rw [herror] at hcatalog
        cases hcatalog
    | some content => rw [loadFetched_repeated hmissing harriving hlater fetched' "", hcatalog]

def lampDump : ByteArray :=
  "[\x7b\x22id\x22: \x221\x22, \x22name\x22: \x22Lamp\x22\x7d]".toUTF8

def junkDump : ByteArray :=
  "junk".toUTF8

def dumpUrl : String := "file:///dump.json"

/-- A dump that was out of reach is loaded once it is in reach, and then without its source. -/
theorem firstLoad_settlesPath_lampDump :
    Files.hasPath {} "catalog.json" = false ∧ IsWhole (.error .unreachable) ∧
      IsWhole (.ok lampDump) ∧
      (loadFetched (.ok lampDump)
        (loadFetched (.error .unreachable) {} "catalog.json" dumpUrl).2 "catalog.json"
        dumpUrl).1.value = .ok [{ id := "1", name := "Lamp" }] ∧
      (loadFetched (.error .unreachable)
        (loadFetched (.ok lampDump) {} "catalog.json" dumpUrl).2 "catalog.json"
        "").1.value = .ok [{ id := "1", name := "Lamp" }] := by
  have hmissing : Files.hasPath {} "catalog.json" = false := by decide
  have hread : (readContent "catalog.json" lampDump).value =
      .ok [{ id := "1", name := "Lamp" }] := by
    decide +kernel
  have hnone : IsWhole (.error .unreachable) := fun received heq => by
    injection heq with hcause
    cases hcause
  have hsome : IsWhole (.ok lampDump) := fun received heq => by cases heq
  have hunreachable :=
    firstLoad_settlesPath (.error .unreachable) {} "catalog.json" dumpUrl hmissing hnone
  have hretried := (hunreachable.retried rfl).2 _ dumpUrl lampDump (.refl _ _) (by decide)
    (by decide)
  have hfetched := firstLoad_settlesPath (.ok lampDump) {} "catalog.json" dumpUrl hmissing hsome
  have harrives : arriving? (.ok lampDump) {} "catalog.json" dumpUrl = some lampDump :=
    arriving?_eq_some_iff.mpr ⟨by decide, by decide, rfl⟩
  have hloaded := (hfetched.repeated lampDump harrives).1
  refine ⟨hmissing, hnone, hsome, ?_, hfetched.kept _ ?_ _ _ (.refl _ _)⟩
  · rw [hretried, hread]
  · rw [hloaded, hread]

/-- A dump that cannot be read is left at the path, and a later load reads it again, although its
source has a catalog by then. -/
theorem firstLoad_keeps_junkDump :
    Files.hasPath {} "catalog.json" = false ∧
      (loadFetched (.ok junkDump) {} "catalog.json" dumpUrl).1.value = .error .notJson ∧
      (loadFetched (.ok junkDump) {} "catalog.json" dumpUrl).2.hasPath "catalog.json" = true ∧
      (loadFetched (.ok lampDump) {} "catalog.json" dumpUrl).1.value =
        .ok [{ id := "1", name := "Lamp" }] ∧
      (loadFetched (.ok lampDump)
        (loadFetched (.ok junkDump) {} "catalog.json" dumpUrl).2 "catalog.json"
        dumpUrl).1.value = .error .notJson := by
  refine ⟨?_, ?_, ?_, ?_, ?_⟩ <;> decide +kernel

end Catalog

end CatalogSearch

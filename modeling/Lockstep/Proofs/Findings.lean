import Mathlib.Data.List.Basic
import Lockstep.Proofs.Nodes
import Lockstep.Proofs.Snapshots

/-! What a change of a repository calls for, file by file and target by target, with no regard to
the order in which a check comes to know it. The passes of a check over all files are compared with
it. -/
namespace Lockstep

def regionsIn (convention : Convention) (path : Path) (content : Option Bytes) : List Region :=
  match content with
  | none => []
  | some bytes => (FileScan.ofContent convention path bytes).regions

namespace Change

variable (c : Change) (settings : Settings)

def scanned : List Path := distinct (c.known.filter fun p => !settings.excludes p)

def ownFindings (path : Path) : List Finding :=
  match c.contents path with
  | .error e => [{ source := path, reason := .unreadable, message := e.message }]
  | .ok (_, none) => []
  | .ok (_, some bytes) =>
    (FileScan.ofContent settings.convention path bytes).errors.map fun e =>
      { source := path, reason := .malformed,
        message := e.fault.message settings.convention.markers, firstLine := some e.line }

def newRegions (path : Path) : List Region :=
  match c.contents path with
  | .error _ => []
  | .ok (_, new) => regionsIn settings.convention path new

def changedRegions (path : Path) : List Region :=
  match c.contents path with
  | .error _ => []
  | .ok (old, new) =>
    let before := regionsIn settings.convention path old
    let after := regionsIn settings.convention path new
    let flags := settings.matching.changed (before.map Region.digest) (after.map Region.digest)
    ((after.zip flags).filter Prod.snd).map Prod.fst

/-- What a target of a changed region has to report. A region asks nothing of its own file. -/
def targetFinding (r : Region) (place : Nat) (target : Text) : Option Finding :=
  let resolved := settings.resolve c.known r.file target
  let finding (reason : Reason) (message : Text) : Finding :=
    { source := r.file, reason, message, firstLine := some r.firstLine,
      lastLine := some r.lastLine, regionIndex := some r.index,
      target := some (resolved.getD target), targetIndex := place }
  let missing := finding .targetMissing
    ("then-change references file that does not exist: '" ++ target ++ "'")
  match resolved with
  | none => some missing
  | some file =>
    if file = r.file then none
    else if file ∉ c.new.files then some missing
    else match c.contents file with
      | .error e => some (finding .unreadable e.message)
      | .ok (old, new) =>
        if old = new then
          some (finding .targetUnchanged
            ("expected change in " ++ file ++ " due to change in " ++ r.location))
        else none

def targetFindings (r : Region) : List Finding :=
  r.targets.zipIdx.filterMap fun (target, place) => c.targetFinding settings r place target

def findings : List Finding :=
  (c.scanned settings).flatMap fun path =>
    c.ownFindings settings path
      ++ (c.changedRegions settings path).flatMap (c.targetFindings settings)

variable {c settings}

theorem file_of_mem_newRegions {path : Path} {r : Region} (h : r ∈ c.newRegions settings path) :
    r.file = path := by
  unfold newRegions at h
  split at h
  · cases h
  · unfold regionsIn at h
    split at h
    · cases h
    · exact FileScan.file_of_mem h

theorem nodup_newRegions {paths : List Path} (distinct : paths.Nodup) :
    ((paths.flatMap (c.newRegions settings)).map Region.key).Nodup := by
  have labels : (paths.map id).Nodup := by rwa [List.map_id]
  refine nodup_map_flatMap Prod.fst labels (fun path _ r hr => file_of_mem_newRegions hr) ?_
  intro path _
  unfold newRegions
  split
  · exact .nil
  · unfold regionsIn
    split
    · exact .nil
    · exact FileScan.nodup_keys settings.convention path _

theorem map_fst_zip_sublist {α β : Type} (xs : List α) (ys : List β) :
    ((xs.zip ys).map Prod.fst).Sublist xs := by
  induction xs generalizing ys with
  | nil => simp
  | cons x rest ih =>
    cases ys with
    | nil => simp
    | cons y ys => simpa using ih ys

theorem changedRegions_sublist (path : Path) :
    (c.changedRegions settings path).Sublist (c.newRegions settings path) := by
  unfold changedRegions newRegions
  split
  · exact .refl _
  · exact (List.filter_sublist.map Prod.fst).trans (map_fst_zip_sublist _ _)

theorem flatMap_changedRegions_sublist (paths : List Path) :
    (paths.flatMap (c.changedRegions settings)).Sublist
      (paths.flatMap (c.newRegions settings)) := by
  induction paths with
  | nil => exact .refl _
  | cons path rest ih =>
    rw [List.flatMap_cons, List.flatMap_cons]
    exact (changedRegions_sublist path).append ih

end Change

theorem FileScan.digest_ofContent (convention : Convention) (path : Path) (content : Bytes) :
    (ofContent convention path content).digest = .ofBytes content := by
  unfold ofContent
  split
  · rfl
  · rfl

namespace Check

variable {c : Change} {settings : Settings}

theorem regionsOf_map (convention : Convention) (path : Path) (content : Option Bytes) :
    regionsOf (content.map (FileScan.ofContent convention path)) =
      regionsIn convention path content := by
  cases content with
  | none => rfl
  | some bytes => rfl

theorem fileFindings_comparison (path : Path) :
    fileFindings settings.convention.markers path (c.comparison settings.convention path) =
      c.ownFindings settings path := by
  unfold fileFindings Change.comparison Change.ownFindings
  cases c.contents path with
  | error e => rfl
  | ok versions =>
    obtain ⟨old, new⟩ := versions
    cases new with
    | none => rfl
    | some bytes => rfl

theorem source_of_mem_fileFindings {m : Markers} {path : Path} {k : Comparison} {f : Finding}
    (h : f ∈ fileFindings m path k) : f.source = path := by
  cases k with
  | error e => simp_all [fileFindings]
  | ok v =>
    obtain ⟨e, _, rfl⟩ := List.mem_map.mp h
    rfl

theorem filterMap_flagged {α : Type} (pairs : List (α × Bool)) :
    pairs.filterMap (fun (x, flag) => if flag then some x else none) =
      (pairs.filter Prod.snd).map Prod.fst := by
  induction pairs with
  | nil => rfl
  | cons pair rest ih =>
    obtain ⟨x, flag⟩ := pair
    cases flag with
    | false => simpa using ih
    | true => simpa using ih

theorem flatMap_readable {β : Type} (f : Path → Versions → List β) (paths : List Path) :
    (readable (paths.map fun p => (p, c.comparison settings.convention p))).flatMap
        (fun (p, v) => f p v) =
      paths.flatMap fun p =>
        match c.comparison settings.convention p with
        | .error _ => []
        | .ok v => f p v := by
  unfold readable
  induction paths with
  | nil => rfl
  | cons path rest ih =>
    rw [List.map_cons, List.flatMap_cons, ← ih]
    cases c.comparison settings.convention path with
    | error e => simp
    | ok v => simp

theorem flatMap_changedRegions (paths : List Path) :
    (readable (paths.map fun p => (p, c.comparison settings.convention p))).flatMap
        (fun (_, v) => changedRegions settings.matching v) =
      paths.flatMap (c.changedRegions settings) := by
  rw [flatMap_readable fun _ v => changedRegions settings.matching v]
  congr 1
  funext path
  unfold Change.comparison Change.changedRegions
  cases c.contents path with
  | error e => rfl
  | ok versions =>
    obtain ⟨old, new⟩ := versions
    simp only [Except.map, changedRegions, regionsOf_map]
    exact filterMap_flagged _

theorem flatMap_newRegions (paths : List Path) :
    ((readable (paths.map fun p => (p, c.comparison settings.convention p))).filterMap
        (fun (_, v) => v.new)).flatMap FileScan.regions =
      paths.flatMap (c.newRegions settings) := by
  rw [List.filterMap_eq_flatMap_toList, List.flatMap_assoc,
    flatMap_readable fun _ v => v.new.toList.flatMap FileScan.regions]
  congr 1
  funext path
  unfold Change.comparison Change.newRegions
  cases c.contents path with
  | error e => rfl
  | ok versions =>
    obtain ⟨old, new⟩ := versions
    cases new with
    | none => rfl
    | some bytes => simp [Except.map, regionsIn]

end Check
end Lockstep

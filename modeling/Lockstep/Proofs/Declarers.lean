import Lockstep.Proofs.Outcomes
import Lockstep.Proofs.Dependents
import Lockstep.Report.Regions

/-! Who declares a file, as the two forms of a survey's report answer it. The console form answers
for every requested file that some region declares. The JSON form has an entry only for a file with
annotations of its own, and so is silent about the others. -/
namespace Lockstep

namespace Json

def field? (name : Text) : Json → Option Json
  | .object fields => fields.lookup name
  | _ => none

def items : Json → List Json
  | .list items => items
  | _ => []

def text? : Json → Option Text
  | .text t => some t
  | _ => none

end Json

namespace Survey

def declarers (settings : Settings) (s : Survey) (path : Path) : List Region :=
  (s.scans.flatMap FileScan.regions).filter fun r =>
    r.targets.any fun target => settings.resolver s.known r target = path

/-- Whether a file has annotations of its own, be they in place or not. -/
def Annotates (s : Survey) (path : Path) : Prop :=
  ∃ scan ∈ s.scans, scan.path = path ∧ (scan.regions ≠ [] ∨ scan.errors ≠ [])

section

variable {σ : Type} (source : Source σ) (ref : Text)

theorem scanAll_ensures (convention : Convention) (paths : List Path) :
    (scanAll source convention ref paths).Ensures fun found =>
      (found.1.map FileScan.path).Sublist paths ∧
        ∀ scan ∈ found.1, ∃ bytes, scan = FileScan.ofContent convention scan.path bytes := by
  induction paths with
  | nil => exact Access.ensures_pure ⟨.slnil, by simp⟩
  | cons path rest ih =>
    unfold scanAll
    refine Access.ensures_bind (Access.ensures_any _) fun answer _ => ?_
    split
    · refine Access.ensures_bind ih fun found others => Access.ensures_pure ?_
      exact ⟨others.1.cons _, others.2⟩
    · intro s found after run
      obtain ⟨paths, contents⟩ := ih s found after run
      exact ⟨paths.cons _, contents⟩
    · next bytes =>
      refine Access.ensures_bind (Check.scan_yields (.inr trivial) path bytes).ensures ?_
      rintro _ rfl
      refine Access.ensures_bind ih fun found others => Access.ensures_pure ?_
      have name := FileScan.path_ofContent convention path bytes
      constructor
      · rw [List.map_cons, name]
        exact others.1.cons_cons path
      · exact List.forall_mem_cons.mpr ⟨⟨bytes, by rw [name]⟩, others.2⟩

theorem ensures_nodup_keys (settings : Settings) :
    (survey source settings ref).Ensures fun found =>
      ((found.scans.flatMap FileScan.regions).map Region.key).Nodup := by
  refine Access.ensures_bind (Access.ensures_any _) fun listed _ => ?_
  refine Access.ensures_bind (scanAll_ensures source ref settings.convention _) ?_
  rintro ⟨scans, errors⟩ ⟨paths, contents⟩
  apply Access.ensures_pure
  have apart : (scans.map FileScan.path).Nodup := by
    refine List.Nodup.sublist paths (List.Nodup.filter _ ?_)
    exact (perm_sortBy _ _).nodup_iff.mpr (nodup_distinct _)
  have read : FileScan.AreOfContents scans := fun scan mem => ⟨settings.convention, contents scan mem⟩
  exact read.nodup_keys apart

end

theorem mem_dependentsOf_graph {settings : Settings} {s : Survey} {path : Path} {r : Region}
    (nodup : ((s.scans.flatMap FileScan.regions).map Region.key).Nodup) :
    r ∈ (s.graph settings).dependentsOf path ↔ r ∈ s.declarers settings path := by
  rw [graph, Graph.mem_dependentsOf_ofScans nodup]
  simp [declarers, Graph.Declares]

end Survey

namespace Report

abbrev Declaration := Path × List Text

def declaration? (file : Json) : Option Declaration := do
  let path ← file.field? "path"
  let declaredBy ← file.field? "declared_by"
  return (← path.text?, declaredBy.items.filterMap Json.text?)

def jsonDeclarations (report : Json) : List Declaration :=
  let entries := ((report.field? "files").map Json.items).getD []
  (entries.filterMap declaration?).filter fun d => d.2 ≠ []

/-- What the console form shows of one file: its path, its annotations, and who declares it. -/
structure Block where
  path : Path
  annotations : List Text := []
  declaredBy : List Region

def Block.lines (b : Block) : List Text := b.path :: b.annotations ++ declaredByLines b.declaredBy

def Block.declaration (b : Block) : Declaration := (b.path, b.declaredBy.map Region.location)

def FileEntry.annotations (m : Markers) (f : FileEntry) : List Text :=
  ((fileLines m f).drop 1).take (f.scan.regions.length + f.scan.errors.length)

namespace Regions

def blocks (m : Markers) (r : Regions) : List Block :=
  r.files.map (fun f =>
      { path := f.scan.path, annotations := f.annotations m, declaredBy := f.declaredBy })
    ++ r.mentioned.map fun mention => { path := mention.1, declaredBy := mention.2 }

/-- The declarations in the console form, of files that some region declares. Its lines are those of
the blocks, as `regionsLines_eq` says. -/
def consoleDeclarations (m : Markers) (r : Regions) : List Declaration :=
  ((r.blocks m).map Block.declaration).filter fun d => d.2 ≠ []

end Regions

theorem fileLines_eq (m : Markers) (f : FileEntry) :
    fileLines m f = f.scan.path :: f.annotations m ++ declaredByLines f.declaredBy := by
  unfold FileEntry.annotations fileLines
  simp only [List.cons_append, List.drop_succ_cons, List.drop_zero]
  rw [List.take_left' (by simp)]

theorem regionsLines_eq (m : Markers) (r : Regions) :
    let remark : List Text := if r.blocks m = [] then ["No annotated regions found"] else []
    regionsLines m r = (r.blocks m).flatMap Block.lines
      ++ r.errors.map (fun e => ("ERROR: " ++ e.message : Text)) ++ remark := by
  intro remark
  have files : r.files.flatMap (fileLines m) = (r.files.map fun f : FileEntry =>
      ({ path := f.scan.path, annotations := f.annotations m, declaredBy := f.declaredBy } :
        Block)).flatMap Block.lines := by
    rw [List.flatMap_map]
    exact List.flatMap_congr fun f _ => fileLines_eq m f
  have none : (r.files.isEmpty && r.mentioned.isEmpty) = true ↔ r.blocks m = [] := by
    simp [Regions.blocks]
  simp only [regionsLines, none, files, Regions.blocks, List.flatMap_append, List.flatMap_map]
  rfl

theorem jsonDeclarations_regionsJson (m : Markers) (r : Regions) :
    jsonDeclarations (regionsJson m r) =
      (r.files.map fun f => (f.scan.path, f.declaredBy.map Region.location)).filter
        fun d => d.2 ≠ [] := by
  have texts (f : FileEntry) : (f.declaredBy.map fun r => Json.text r.location).filterMap
      Json.text? = f.declaredBy.map Region.location := by
    rw [List.filterMap_map]
    exact congrFun List.filterMap_eq_map f.declaredBy
  have entry (f : FileEntry) :
      declaration? (fileJson m f) = some (f.scan.path, f.declaredBy.map Region.location) := by
    rw [← texts f]
    rfl
  have entries : (((regionsJson m r).field? "files").map Json.items).getD [] =
      r.files.map (fileJson m) := rfl
  have declared : declaration? ∘ fileJson m = some ∘ fun f : FileEntry =>
      (f.scan.path, f.declaredBy.map Region.location) := funext entry
  rw [jsonDeclarations, entries, List.filterMap_map, declared, List.filterMap_eq_map]

section

variable {settings : Settings} {ref : Text} {requested : List Path} {found : Survey}

def answer (settings : Settings) (found : Survey) (path : Path) : Declaration :=
  (path, ((found.graph settings).dependentsOf path).map Region.location)

theorem mem_map_answer {paths : List Path} {d : Declaration} :
    d ∈ paths.map (answer settings found) ↔ d = answer settings found d.1 ∧ d.1 ∈ paths := by
  rw [List.mem_map]
  constructor
  · rintro ⟨path, mem, rfl⟩
    exact ⟨rfl, mem⟩
  · rintro ⟨same, mem⟩
    exact ⟨d.1, mem, same.symm⟩

namespace Regions

theorem mem_files {path : Path} :
    path ∈ (ofSurvey settings ref requested found).files.map (fun f => f.scan.path) ↔
      (requested = [] ∨ path ∈ requested) ∧ found.Annotates path := by
  simp only [ofSurvey, List.map_map, List.mem_map, List.mem_filter, Function.comp_apply,
    Survey.Annotates, Bool.and_eq_true, Bool.or_eq_true, List.isEmpty_iff,
    List.contains_iff_mem, Bool.not_eq_true', Bool.and_eq_false_iff, List.isEmpty_eq_false_iff]
  constructor
  · rintro ⟨scan, ⟨mem, picked, annotated⟩, rfl⟩
    exact ⟨picked, scan, mem, rfl, annotated⟩
  · rintro ⟨picked, scan, mem, rfl, annotated⟩
    exact ⟨scan, ⟨mem, picked, annotated⟩, rfl⟩

theorem mem_mentioned {path : Path} :
    path ∈ (ofSurvey settings ref requested found).mentioned.map Prod.fst ↔
      (path ∈ requested ∧ ¬found.Annotates path) ∧ (answer settings found path).2 ≠ [] := by
  let report := ofSurvey settings ref requested found
  have unlisted : path ∈ report.mentioned.map Prod.fst ↔
      (path ∈ requested ∧ path ∉ report.files.map fun f => f.scan.path) ∧
        (answer settings found path).2 ≠ [] := by
    simp [report, ofSurvey, answer, and_assoc]
  rw [unlisted, mem_files]
  refine and_congr_left' (and_congr_right fun asked => ?_)
  simp [asked]

theorem map_declaration_blocks (m : Markers) :
    let r := ofSurvey settings ref requested found
    (r.blocks m).map Block.declaration =
      (r.files.map (fun f => f.scan.path) ++ r.mentioned.map Prod.fst).map
        (answer settings found) := by
  intro r
  have mentions : ∀ mention ∈ r.mentioned,
      mention.2 = (found.graph settings).dependentsOf mention.1 := by
    intro mention mem
    obtain ⟨path, -, rfl⟩ := List.mem_map.mp (List.mem_of_mem_filter mem)
    rfl
  rw [Regions.blocks, List.map_append, List.map_append, List.map_map, List.map_map, List.map_map]
  congr 1
  · simp only [r, ofSurvey, List.map_map]
    rfl
  · rw [List.map_map]
    apply List.map_congr_left
    intro mention mem
    simp only [Function.comp_apply, Block.declaration, answer, mentions mention mem]

end Regions

theorem mem_jsonDeclarations {m : Markers} {d : Declaration} :
    d ∈ jsonDeclarations (regionsJson m (.ofSurvey settings ref requested found)) ↔
      d = answer settings found d.1 ∧ d.2 ≠ [] ∧ (requested = [] ∨ d.1 ∈ requested) ∧
        found.Annotates d.1 := by
  have answers : (Regions.ofSurvey settings ref requested found).files.map (fun f =>
      (f.scan.path, f.declaredBy.map Region.location)) =
        ((Regions.ofSurvey settings ref requested found).files.map fun f => f.scan.path).map
          (answer settings found) := by
    simp only [Regions.ofSurvey, List.map_map]
    rfl
  rw [jsonDeclarations_regionsJson, List.mem_filter, decide_eq_true_eq, answers, mem_map_answer,
    Regions.mem_files]
  tauto

theorem mem_consoleDeclarations {m : Markers} {d : Declaration} :
    d ∈ (Regions.ofSurvey settings ref requested found).consoleDeclarations m ↔
      d = answer settings found d.1 ∧ d.2 ≠ [] ∧
        (requested = [] ∧ found.Annotates d.1 ∨ d.1 ∈ requested) := by
  rw [Regions.consoleDeclarations, List.mem_filter, decide_eq_true_eq,
    Regions.map_declaration_blocks, mem_map_answer, List.mem_append, Regions.mem_files,
    Regions.mem_mentioned]
  constructor
  · rintro ⟨⟨same, ⟨all | asked, annotated⟩ | ⟨⟨asked, -⟩, -⟩⟩, declared⟩
    · exact ⟨same, declared, .inl ⟨all, annotated⟩⟩
    · exact ⟨same, declared, .inr asked⟩
    · exact ⟨same, declared, .inr asked⟩
  · rintro ⟨same, declared, ⟨all, annotated⟩ | asked⟩
    · exact ⟨⟨same, .inl ⟨.inl all, annotated⟩⟩, declared⟩
    · by_cases annotated : found.Annotates d.1
      · exact ⟨⟨same, .inl ⟨.inr asked, annotated⟩⟩, declared⟩
      · exact ⟨⟨same, .inr ⟨⟨asked, annotated⟩, same ▸ declared⟩⟩, declared⟩

end

theorem answer_eq_nil {path : Path}
    (nodup : ((found.scans.flatMap FileScan.regions).map Region.key).Nodup) :
    (answer settings found path).2 = [] ↔ found.declarers settings path = [] := by
  refine List.map_eq_nil_iff.trans ?_
  simp only [List.eq_nil_iff_forall_not_mem, Survey.mem_dependentsOf_graph nodup]

end Report

/-- The console form of a report on a survey begins with its blocks. They answer for each file that
some region declares, if the file is requested, or nothing is requested and it has annotations, and
they name the regions that declare it. The JSON form gives the same answers, but only for files with
annotations of their own. So the two forms agree just where each requested file that some region
declares has annotations. -/
theorem declarations_of_forms {σ : Type} (source : Source σ) (settings : Settings) (ref : Text)
    (requested : List Path) (s after : Session σ) (found : Survey)
    (run : (survey source settings ref).perform s = (.ok found, after)) :
    let m := settings.convention.markers
    let r := Report.Regions.ofSurvey settings ref requested found
    let console := r.consoleDeclarations m
    let json := Report.jsonDeclarations (Report.regionsJson m r)
    (r.blocks m).flatMap Report.Block.lines <+: Report.regionsLines m r ∧
      (∀ path, (∃ d ∈ console, d.1 = path) ↔ found.declarers settings path ≠ [] ∧
        (requested = [] ∧ found.Annotates path ∨ path ∈ requested)) ∧
      (∀ d ∈ console, ∀ location, location ∈ d.2 ↔
        ∃ q ∈ found.declarers settings d.1, q.location = location) ∧
      (∀ d, d ∈ json ↔ d ∈ console ∧ found.Annotates d.1) ∧
      ((∀ d, d ∈ console ↔ d ∈ json) ↔
        ∀ path ∈ requested, found.declarers settings path ≠ [] → found.Annotates path) := by
  intro m r console json
  have nodup := Survey.ensures_nodup_keys source ref settings s found after run
  have inConsole (d : Report.Declaration) :=
    @Report.mem_consoleDeclarations settings ref requested found m d
  have inJson (d : Report.Declaration) :=
    @Report.mem_jsonDeclarations settings ref requested found m d
  have declared (path : Path) : (Report.answer settings found path).2 ≠ [] ↔
      found.declarers settings path ≠ [] := not_congr (Report.answer_eq_nil nodup)
  -- A requested file without annotations is what the JSON form leaves out.
  have restricted (d : Report.Declaration) : d ∈ json ↔ d ∈ console ∧ found.Annotates d.1 := by
    rw [inJson, inConsole]
    tauto
  refine ⟨?_, ?_, ?_, restricted, ?_⟩
  · rw [Report.regionsLines_eq, List.append_assoc]
    exact List.prefix_append _ _
  · intro path
    constructor
    · rintro ⟨d, mem, rfl⟩
      obtain ⟨same, some, asked⟩ := (inConsole d).mp mem
      exact ⟨(declared d.1).mp (same ▸ some), asked⟩
    · rintro ⟨some, asked⟩
      exact ⟨_, (inConsole _).mpr ⟨rfl, (declared path).mpr some, asked⟩, rfl⟩
  · intro d mem location
    have locations : d.2 = ((found.graph settings).dependentsOf d.1).map Region.location :=
      congrArg Prod.snd ((inConsole d).mp mem).1
    simp only [locations, List.mem_map, Survey.mem_dependentsOf_graph nodup]
  · constructor
    · intro agree path asked some
      have answered := (inConsole (Report.answer settings found path)).mpr
        ⟨rfl, (declared path).mpr some, .inr asked⟩
      exact ((restricted _).mp ((agree _).mp answered)).2
    · intro annotated d
      rw [restricted]
      refine ⟨fun mem => ⟨mem, ?_⟩, And.left⟩
      obtain ⟨same, some, ⟨-, own⟩ | asked⟩ := (inConsole d).mp mem
      · exact own
      · exact annotated d.1 asked ((declared d.1).mp (same ▸ some))

theorem declarations_of_forms_of_two :
    let region (target : Text) : Stored :=
      .content (Text.toUtf8 ("# if-change\nx\n# then-change " ++ target ++ "\n"))
    let a : Archive := { snapshots := [("1", [("a", region "b"), ("b", region "a")])] }
    let settings : Settings := {}
    let m := settings.convention.markers
    let declaration : Report.Declaration := ("a", ["b:2-3"])
    ∃ found after, (survey a.source settings "1").perform { memory := () } = (.ok found, after) ∧
      let r := Report.Regions.ofSurvey settings "1" ["a"] found
      r.consoleDeclarations m = [declaration] ∧
        ∀ d, d ∈ r.consoleDeclarations m ↔
          d ∈ Report.jsonDeclarations (Report.regionsJson m r) := by
  intro region a settings m declaration
  let shown (found : Survey) : List Path × List Report.Declaration :=
    ((found.scans.filter fun scan => scan.regions ≠ []).map FileScan.path,
      (Report.Regions.ofSurvey settings "1" ["a"] found).consoleDeclarations m)
  have known : ((survey a.source settings "1").perform { memory := () }).1.toOption.map shown =
      some ([("a" : Path), "b"], [declaration]) := by
    decide +kernel
  obtain ⟨found, after, run, facts⟩ := Access.exists_of_map_toOption known
  obtain ⟨annotated, declared⟩ := Prod.mk.inj facts
  refine ⟨found, after, run, declared, ?_⟩
  apply (declarations_of_forms a.source settings "1" ["a"] _ after found run).2.2.2.2.mpr
  intro path asked _
  cases List.mem_singleton.mp asked
  have own : ("a" : Path) ∈ (found.scans.filter fun scan => scan.regions ≠ []).map FileScan.path :=
    annotated ▸ List.mem_cons_self
  obtain ⟨scan, mem, same⟩ := List.mem_map.mp own
  obtain ⟨mem, regions⟩ := List.mem_filter.mp mem
  exact ⟨scan, mem, same, .inl (of_decide_eq_true regions)⟩

/-- A requested file has no annotations, but a region declares it. Only the console form says so. -/
theorem declarations_of_forms_differ :
    let region : Stored := .content (Text.toUtf8 "# if-change\nx\n# then-change b\n")
    let a : Archive := { snapshots := [("1", [("a", region), ("b", .content [])])] }
    let settings : Settings := {}
    let m := settings.convention.markers
    let lines : List Text := ["b", "  declared by: a:2-3"]
    let document : Text :=
      "\x7b\n  \"ref\": \"1\",\n  \"files\": [],\n  \"read_errors\": []\n\x7d"
    ∃ found after, (survey a.source settings "1").perform { memory := () } = (.ok found, after) ∧
      let r := Report.Regions.ofSurvey settings "1" ["b"] found
      Report.regionsLines m r = lines ∧ (Report.regionsJson m r).render 0 = document ∧
        ¬∀ d, d ∈ r.consoleDeclarations m ↔
          d ∈ Report.jsonDeclarations (Report.regionsJson m r) := by
  intro region a settings m lines document
  let declaration : Report.Declaration := ("b", ["a:2-3"])
  let report (found : Survey) := Report.Regions.ofSurvey settings "1" ["b"] found
  let forms (found : Survey) : List Text × Text :=
    (Report.regionsLines m (report found), (Report.regionsJson m (report found)).render 0)
  let declared (found : Survey) : List Report.Declaration × List Report.Declaration :=
    ((report found).consoleDeclarations m,
      Report.jsonDeclarations (Report.regionsJson m (report found)))
  have reported : ((survey a.source settings "1").perform { memory := () }).1.toOption.map forms =
      some (lines, document) := by
    decide +kernel
  have declares : ((survey a.source settings "1").perform { memory := () }).1.toOption.map
      declared = some ([declaration], []) := by
    decide +kernel
  obtain ⟨found, after, run, texts⟩ := Access.exists_of_map_toOption reported
  obtain ⟨human, machine⟩ := Prod.mk.inj texts
  have answers : declared found = ([declaration], []) := Access.eq_of_map_toOption run declares
  obtain ⟨console, json⟩ := Prod.mk.inj answers
  refine ⟨found, after, run, human, machine, ?_⟩
  intro agree
  have answered := (agree declaration).mp (console ▸ List.mem_cons_self)
  rw [json] at answered
  cases answered

end Lockstep

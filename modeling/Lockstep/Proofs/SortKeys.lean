import Mathlib.Data.List.Nodup
import Lockstep.Proofs.Faults
import Lockstep.Proofs.Order
import Lockstep.Proofs.Outcomes
import Lockstep.Proofs.Verdicts

/-! That no two findings of a check take the same place in its report. The faults of a file stand at
lines of their own, no two regions of a file begin at one line, and a finding about a whole file
stands before all lines. What separates a fault from a target of a region that begins at the same
line is the reason. -/
namespace Lockstep

/-- What gives a finding its place in a report: the file, the first line, which is zero for a whole
file, the place of the target, and the reason. -/
structure SortKey where
  file : Path
  line : Int
  targetIndex : Int
  reason : String
deriving DecidableEq

instance : LT SortKey where
  lt a b :=
    a.file.lt b.file = true ∨ a.file = b.file ∧
      (a.line < b.line ∨ a.line = b.line ∧
        (a.targetIndex < b.targetIndex ∨ a.targetIndex = b.targetIndex ∧ a.reason < b.reason))

def Finding.sortKey (f : Finding) : SortKey :=
  { file := f.source, line := f.firstLine.getD 0, targetIndex := f.targetIndex,
    reason := f.reason.name }

namespace Reason

theorem name_injective {a b : Reason} (h : a.name = b.name) : a = b := by
  cases a <;> cases b <;> first | rfl | exact absurd h (by decide)

theorem name_lt_of_rank_lt {a b : Reason} (h : a.rank < b.rank) : a.name < b.name := by
  cases a <;> cases b <;> first | decide | exact absurd h (by decide)

theorem rank_injective {a b : Reason} (h : a.rank = b.rank) : a = b := by
  cases a <;> cases b <;> first | rfl | exact absurd h (by decide)

end Reason

namespace Finding

theorem reason_eq_of_sortKey {f g : Finding} (h : f.sortKey = g.sortKey) : f.reason = g.reason :=
  Reason.name_injective (congrArg SortKey.reason h)

theorem sortKey_lt_of_le {f g : Finding} (le : f.le g = true) (apart : f.sortKey ≠ g.sortKey) :
    f.sortKey < g.sortKey := by
  simp only [Finding.le, place, lexLe, Bool.or_eq_true, Bool.and_eq_true, decide_eq_true_eq,
    Bool.and_true, Int.ofNat_lt, Int.natCast_inj] at le
  rcases le with file | ⟨file, line | ⟨line, index | ⟨index, reason | reason⟩⟩⟩
  · exact .inl file
  · exact .inr ⟨file, .inl line⟩
  · exact .inr ⟨file, .inr ⟨line, .inl index⟩⟩
  · exact .inr ⟨file, .inr ⟨line, .inr ⟨index, Reason.name_lt_of_rank_lt reason⟩⟩⟩
  · apply absurd _ apart
    simp only [sortKey, file, line, index, Reason.rank_injective reason]

theorem sortKey_eq_of_le {f g : Finding} (forth : f.le g = true) (back : g.le f = true) :
    f.sortKey = g.sortKey := by
  simp only [Finding.le, Bool.or_eq_true, Bool.and_eq_true, decide_eq_true_eq] at forth back
  rcases forth with forth | ⟨file, forth⟩
  · rcases back with back | ⟨file, -⟩
    · exact absurd (Text.le_of_lt back) (Text.lt_iff.mp forth)
    · rw [file] at forth
      exact absurd (Text.le_of_lt forth) (Text.lt_iff.mp forth)
  · rcases back with back | ⟨-, back⟩
    · rw [file] at back
      exact absurd (Text.le_of_lt back) (Text.lt_iff.mp back)
    · have places : f.place = g.place := lexLe_antisymm forth back
      simp only [place, List.cons.injEq, Int.natCast_inj] at places
      simp only [sortKey, file, places.1, places.2.1, Reason.rank_injective places.2.2.1]

end Finding

theorem FileScan.nodup_errorLines (convention : Convention) (path : Path) (content : Bytes) :
    ((ofContent convention path content).errors.map AnnotationError.line).Nodup := by
  unfold ofContent
  split
  · exact (Scan.division_run _ _).nodup_faultLines
  · exact .nil

def Region.start (r : Region) : Path × Int := (r.file, r.firstLine)

theorem FileScan.nodup_starts (convention : Convention) (path : Path) (content : Bytes) :
    ((ofContent convention path content).regions.map Region.start).Nodup := by
  rcases ofContent_cases convention path content with lines | none
  · let events := Scan.eventsOf convention content
    have starts : (Scan.everyLine convention path content).regions.map Region.start =
        (Scan.blocks events).map fun b => (path, (b.firstLine : Int)) := by
      apply List.ext_getElem?
      intro place
      rw [List.getElem?_map, Scan.everyLine, List.getElem?_mapIdx, List.getElem?_map,
        Option.map_map]
      rfl
    have division := Scan.division_run convention.implicitClose
      (Scan.readingsOf convention.markers content)
    rw [lines, starts, List.nodup_iff_pairwise_ne, List.pairwise_map]
    refine division.pairwise_blocks.imp_of_mem ?_
    intro a b ha _ apart same
    have := (division.liesIn a ha).firstLine_le
    have : a.firstLine = b.firstLine := Int.natCast_inj.mp (congrArg Prod.snd same)
    omega
  · rw [none]
    exact .nil

theorem FileScan.firstLine_pos {convention : Convention} {path : Path} {content : Bytes} {r : Region}
    (h : r ∈ (ofContent convention path content).regions) : 0 < r.firstLine := by
  obtain ⟨place, hplace⟩ := List.mem_iff_getElem?.mp h
  obtain ⟨b, lies, rfl⟩ := exists_block_of_getElem convention path content hplace
  have := lies.firstLine_gt
  simp only [Scan.regionOf]
  omega

namespace Check

variable {settings : Settings} {compared : List (Path × Comparison)}

theorem nodup_fileFindings {path : Path} {k : Comparison} (m : Markers) {convention : Convention}
    (ofContent : k.OfContent convention path) :
    ((fileFindings m path k).map Finding.sortKey).Nodup := by
  cases k with
  | error e => simp [fileFindings]
  | ok v =>
    cases h : v.new with
    | none => simp [fileFindings, h]
    | some scan =>
      obtain ⟨bytes, rfl⟩ := ofContent v rfl scan h
      have lines := FileScan.nodup_errorLines convention path bytes
      rw [List.nodup_iff_pairwise_ne, List.pairwise_map] at lines ⊢
      simp only [fileFindings, h, Option.map_some, Option.getD_some, List.pairwise_map]
      refine lines.imp ?_
      intro a b apart same
      exact apart (Int.natCast_inj.mp (congrArg SortKey.line same))

theorem reason_of_mem_fileFindings {m : Markers} {path : Path} {k : Comparison} {f : Finding}
    (h : f ∈ fileFindings m path k) : f.reason = .malformed ∨ f.firstLine = none := by
  cases k with
  | error e => simp_all [fileFindings]
  | ok v =>
    obtain ⟨e, _, rfl⟩ := List.mem_map.mp h
    exact .inl rfl

theorem nodup_ofFiles (m : Markers) (nodup : (compared.map Prod.fst).Nodup)
    (ofContent : ∀ pc ∈ compared, pc.2.OfContent settings.convention pc.1) :
    ((compared.flatMap fun (p, k) => fileFindings m p k).map Finding.sortKey).Nodup := by
  refine nodup_map_flatMap SortKey.file nodup ?_ ?_
  · intro pc _ f hf
    exact source_of_mem_fileFindings hf
  · intro pc hpc
    exact nodup_fileFindings m (ofContent pc hpc)

end Check

def Comparison.regions : Comparison → List Region
  | .error _ => []
  | .ok v => Check.regionsOf v.new

theorem Comparison.OfContent.regions_eq {convention : Convention} {path : Path} {k : Comparison}
    (h : k.OfContent convention path) :
    k.regions = [] ∨ ∃ bytes, k.regions = (FileScan.ofContent convention path bytes).regions := by
  cases k with
  | error e => exact .inl rfl
  | ok v =>
    cases found : v.new with
    | none =>
      left
      simp [regions, Check.regionsOf, found]
    | some scan =>
      right
      obtain ⟨bytes, rfl⟩ := h v rfl scan found
      exact ⟨bytes, by simp [regions, Check.regionsOf, found]⟩

namespace Check

variable {settings : Settings} {compared : List (Path × Comparison)}

theorem flatMap_regions_readable (compared : List (Path × Comparison)) :
    ((readable compared).filterMap fun (_, v) => v.new).flatMap FileScan.regions =
      compared.flatMap fun pc => pc.2.regions := by
  unfold readable
  induction compared with
  | nil => rfl
  | cons pc rest ih =>
    obtain ⟨path, k⟩ := pc
    rw [List.flatMap_cons, ← ih]
    cases k with
    | error e => rfl
    | ok v => cases h : v.new <;> simp [h, Comparison.regions, regionsOf]

section

variable (nodup : (compared.map Prod.fst).Nodup)
  (ofContent : ∀ pc ∈ compared, pc.2.OfContent settings.convention pc.1)

include ofContent

theorem exists_content_of_mem {r : Region} (h : r ∈ compared.flatMap fun pc => pc.2.regions) :
    ∃ path bytes, r ∈ (FileScan.ofContent settings.convention path bytes).regions := by
  obtain ⟨pc, hpc, hr⟩ := List.mem_flatMap.mp h
  rcases (ofContent pc hpc).regions_eq with none | ⟨bytes, same⟩
  · simp [none] at hr
  · exact ⟨pc.1, bytes, same ▸ hr⟩

include nodup

theorem nodup_scanned (key : Region → Path × Int) (file : ∀ r, (key r).1 = r.file)
    (within : ∀ path bytes,
      ((FileScan.ofContent settings.convention path bytes).regions.map key).Nodup) :
    ((compared.flatMap fun pc => pc.2.regions).map key).Nodup := by
  refine nodup_map_flatMap Prod.fst nodup ?_ ?_
  · intro pc hpc r hr
    rcases (ofContent pc hpc).regions_eq with none | ⟨bytes, same⟩
    · simp [none] at hr
    · exact (file r).trans (FileScan.file_of_mem (same ▸ hr))
  · intro pc hpc
    rcases (ofContent pc hpc).regions_eq with none | ⟨bytes, same⟩
    · simp [none]
    · rw [same]
      exact within pc.1 bytes

end

theorem nodup_spots {regions : List Region} (nodup : (regions.map Region.start).Nodup) :
    ((regions.flatMap Graph.edgesOf).map Edge.spot).Nodup := by
  refine nodup_map_flatMap (fun spot => (spot.1, spot.2.1)) nodup ?_ ?_
  · intro r _ e he
    rw [← Graph.source_of_mem_edgesOf he]
    rfl
  · intro r _
    rw [Graph.edgesOf, List.nodup_iff_pairwise_ne, List.pairwise_map, List.pairwise_iff_getElem]
    intro i j hi hj less same
    simp [Edge.spot] at same
    omega

end Check

namespace Verdict.Gathered

variable {settings : Settings} {v : Verdict} {compared : List (Path × Comparison)}
  {ofEdges : List Finding}

theorem exists_edges (h : v.Gathered settings compared ofEdges) :
    ∃ edges, Check.ComeFrom edges ofEdges ∧
      edges.Perm ((compared.flatMap fun pc => pc.2.regions).flatMap Graph.edgesOf) := by
  obtain ⟨resolver, comeFrom⟩ := h.comeFrom
  have keys := Check.nodup_scanned h.nodup h.ofContent Region.key (fun _ => rfl)
    (FileScan.nodup_keys settings.convention)
  rw [← Check.flatMap_regions_readable] at keys
  have edges := @Graph.edges_ofScans resolver _ keys
  rw [Check.flatMap_regions_readable] at edges
  exact ⟨_, comeFrom, edges⟩

theorem nodup_ofEdges (h : v.Gathered settings compared ofEdges) :
    (ofEdges.map Finding.sortKey).Nodup := by
  obtain ⟨edges, ⟨spots, -⟩, perm⟩ := h.exists_edges
  have starts := Check.nodup_scanned h.nodup h.ofContent Region.start (fun _ => rfl)
    (FileScan.nodup_starts settings.convention)
  have apart : (edges.map Edge.spot).Nodup :=
    (perm.map Edge.spot).nodup_iff.mpr (Check.nodup_spots starts)
  apply List.Nodup.of_map fun k : SortKey => (k.file, k.line, k.targetIndex)
  rw [List.map_map]
  exact apart.sublist spots

theorem of_mem_ofEdges (h : v.Gathered settings compared ofEdges) {f : Finding}
    (hf : f ∈ ofEdges) : f.reason ≠ .malformed ∧ 0 < f.firstLine.getD 0 := by
  obtain ⟨edges, ⟨spots, known⟩, perm⟩ := h.exists_edges
  refine ⟨known f hf, ?_⟩
  obtain ⟨e, he, same⟩ := List.mem_map.mp (spots.subset (List.mem_map_of_mem hf))
  obtain ⟨r, hr, own⟩ := List.mem_flatMap.mp (perm.mem_iff.mp he)
  obtain ⟨path, bytes, found⟩ := Check.exists_content_of_mem h.ofContent hr
  have positive := FileScan.firstLine_pos found
  rw [← Graph.source_of_mem_edgesOf own] at positive
  have line : e.source.firstLine = f.firstLine.getD 0 := congrArg (·.2.1) same
  rwa [← line]

theorem nodup_sortKeys (h : v.Gathered settings compared ofEdges) :
    (v.findings.map Finding.sortKey).Nodup := by
  let m := settings.convention.markers
  have all : ((compared.flatMap (fun (p, k) => Check.fileFindings m p k) ++ ofEdges).map
      Finding.sortKey).Nodup := by
    rw [List.map_append, List.nodup_append]
    refine ⟨Check.nodup_ofFiles m h.nodup h.ofContent, h.nodup_ofEdges, ?_⟩
    intro x hx y hy same
    obtain ⟨f, hf, rfl⟩ := List.mem_map.mp hx
    obtain ⟨g, hg, rfl⟩ := List.mem_map.mp hy
    obtain ⟨pc, _, hf⟩ := List.mem_flatMap.mp hf
    obtain ⟨known, atLine⟩ := h.of_mem_ofEdges hg
    -- A fault differs in its reason, and a file that cannot be read has no line.
    rcases Check.reason_of_mem_fileFindings hf with fault | whole
    · exact known (Finding.reason_eq_of_sortKey same ▸ fault)
    · have : f.firstLine.getD 0 = g.firstLine.getD 0 := congrArg SortKey.line same
      rw [whole, Option.getD_none] at this
      omega
  rw [h.findings_eq]
  exact ((perm_sortBy _ _).map _).nodup_iff.mpr all

theorem pairwise_findings (h : v.Gathered settings compared ofEdges) :
    v.findings.Pairwise fun f g => f.le g = true := by
  rw [h.findings_eq]
  exact Finding.pairwise_sorted _

theorem pairwise_sortKeys (h : v.Gathered settings compared ofEdges) :
    v.findings.Pairwise fun f g => f.sortKey < g.sortKey := by
  have apart := h.nodup_sortKeys
  rw [List.nodup_iff_pairwise_ne, List.pairwise_map] at apart
  exact h.pairwise_findings.imp₂ (fun _ _ => Finding.sortKey_lt_of_le) apart

theorem eq_of_perm_sublist (h : v.Gathered settings compared ofEdges) {findings part : List Finding}
    (sublist : part.Sublist v.findings) (perm : findings.Perm part)
    (sorted : findings.Pairwise fun f g => f.le g = true) : findings = part := by
  refine perm.eq_of_pairwise ?_ sorted (h.pairwise_findings.sublist sublist)
  intro f g hf hg forth back
  exact List.inj_on_of_nodup_map h.nodup_sortKeys (sublist.subset (perm.subset hf))
    (sublist.subset hg) (Finding.sortKey_eq_of_le forth back)

theorem eq_of_perm (h : v.Gathered settings compared ofEdges) {findings : List Finding}
    (perm : findings.Perm v.findings)
    (sorted : findings.Pairwise fun f g => f.le g = true) : findings = v.findings :=
  h.eq_of_perm_sublist (.refl _) perm sorted

end Verdict.Gathered

namespace Check

variable {c : Change} {settings : Settings}

theorem spot_judgement (c : Change) (settings : Settings) (e : Edge) :
    ∀ f ∈ judgement c settings e, f.spot = e.spot ∧ f.reason ≠ .malformed := by
  unfold judgement
  split
  · exact spot_missing e none
  · split
    · exact spot_judge e _ _
    · exact spot_missing e _

theorem comeFrom_judgements (c : Change) (settings : Settings) (edges : List Edge) :
    ComeFrom edges (edges.filterMap (judgement c settings)) := by
  induction edges with
  | nil => exact ⟨.slnil, by simp⟩
  | cons e rest ih =>
    have both := ih.cons (spot_judgement c settings e)
    cases own : judgement c settings e with
    | none => simpa [own] using both
    | some finding => simpa [own] using both

theorem ofContent_comparison (c : Change) (convention : Convention) (path : Path) :
    (c.comparison convention path).OfContent convention path := by
  intro v compared scan new
  unfold Change.comparison at compared
  cases found : c.contents path with
  | error e =>
    rw [found] at compared
    cases compared
  | ok versions =>
    rw [found] at compared
    cases compared
    obtain ⟨bytes, -, rfl⟩ := Option.map_eq_some_iff.mp new
    exact ⟨bytes, rfl⟩

end Check

namespace Change

variable {c : Change} {settings : Settings}

theorem gathered : ∃ compared ofEdges, (c.verdict settings).Gathered settings compared ofEdges := by
  let paths := sortBy Text.le (c.scanned settings)
  let compared := paths.map fun p => (p, c.comparison settings.convention p)
  have distinct : paths.Nodup := (perm_sortBy _ _).nodup_iff.mpr (nodup_distinct _)
  refine ⟨compared, _, ?_, ?_, ⟨settings.resolver c.known, ?_⟩, rfl⟩
  · rw [List.map_map]
    exact (List.map_id paths).symm ▸ distinct
  · intro pc mem
    obtain ⟨path, -, rfl⟩ := List.mem_map.mp mem
    exact Check.ofContent_comparison c settings.convention path
  · have judged := Check.comeFrom_judgements c settings
    exact ⟨(judged _).1.trans (List.filter_sublist.map Edge.spot), (judged _).2⟩

theorem findings_eq_of_perm {findings : List Finding}
    (perm : findings.Perm (c.verdict settings).findings)
    (sorted : findings.Pairwise fun f g => f.le g = true) :
    findings = (c.verdict settings).findings := by
  obtain ⟨compared, ofEdges, h⟩ := @gathered c settings
  exact h.eq_of_perm perm sorted

end Change

/-- Whatever a source answers, the findings of a check are strictly increasing, so that no two of
them share a key, and whoever gathers the same findings in another order reports the same. -/
theorem check_findings_strictly_sorted {σ : Type} (source : Source σ) (settings : Settings)
    (old new : Text) (s after : Session σ) (v : Verdict)
    (run : (check source settings old new).perform s = (.ok v, after)) :
    (v.findings.Pairwise fun f g => f.sortKey < g.sortKey) ∧
      (v.findings.map Finding.sortKey).Nodup ∧
        ∀ gathered, gathered.Perm v.findings → sortBy Finding.le gathered = v.findings := by
  obtain ⟨compared, ofEdges, h⟩ := check_ensures source settings old new s v after run
  have strict := h.pairwise_sortKeys
  refine ⟨strict, h.nodup_sortKeys, ?_⟩
  intro gathered perm
  exact h.eq_of_perm ((perm_sortBy _ _).trans perm) (Finding.pairwise_sorted gathered)

theorem check_findings_sorted_of_four :
    let region (body : Text) : Stored := .content (Text.toUtf8
      ("# if-change\n# if-change " ++ body ++ "\n# then-change\n# b\n# c\n# end-change\n"))
    let a : Archive :=
      { snapshots := [("1", [("a", region "x"), ("b", .content [1])]),
          ("2", [("a", region "y"), ("b", .content [1]), ("d", .unreadable "lost")])] }
    ∃ v after, (check a.source {} "1" "2").perform { memory := () } = (.ok v, after) ∧
      (v.findings.Pairwise fun f g => f.sortKey < g.sortKey) ∧
        v.findings.map Finding.sortKey =
          [⟨"a", 2, 0, "MalformedAnnotation"⟩, ⟨"a", 2, 0, "TargetUnchanged"⟩,
            ⟨"a", 2, 1, "TargetFileMissing"⟩, ⟨"d", 0, 0, "SnapshotReadError"⟩] := by
  intro region a
  let c : Change :=
    { old := Archive.snapshotOf "1" [("a", region "x"), ("b", .content [1])]
      new := Archive.snapshotOf "2"
        [("a", region "y"), ("b", .content [1]), ("d", .unreadable "lost")] }
  obtain ⟨after, run⟩ := @check_returns Unit a.source {} "1" "2" c (by decide)
    (Archive.holds rfl (by decide)) (Archive.holds rfl (by decide)) { memory := () }
  have strict := check_findings_strictly_sorted a.source {} "1" "2" _ after _ run
  exact ⟨c.verdict {}, after, run, strict.1, by decide +kernel⟩

end Lockstep

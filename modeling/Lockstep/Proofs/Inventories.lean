import Lockstep.Proofs.Encoding
import Lockstep.Proofs.Listings
import Lockstep.Proofs.Marking
import Lockstep.Proofs.Stability

/-! Reading what git lists of a commit. An entry is read back as it was written, whatever bytes its
path has: only the first tab ends the description, only a null byte ends the path, and bytes that
are no UTF-8 are kept. So the files of a commit are those that the listing has, and git is asked for
the bytes of these only. -/
namespace Lockstep

namespace Text

theorem toUtf8_ofUtf8 (bytes : Bytes) : (ofUtf8 bytes).toUtf8 = bytes := by
  conv_rhs => rw [← Utf8.flatMap_bytes_pieces bytes]
  rw [ofUtf8, toUtf8, List.flatMap_assoc]
  apply List.flatMap_congr
  intro piece _
  cases piece with
  | char c => simp [Utf8.Piece.bytes]
  | junk bs => simp [Utf8.Piece.bytes, List.flatMap_map]

theorem ofUtf8?_toUtf8 (cs : List Char) : ofUtf8? (toUtf8 (ofChars cs)) = some cs := by
  induction cs with
  | nil => rfl
  | cons c rest ih =>
    rw [ofUtf8?] at ih ⊢
    rw [ofChars, List.map_cons, toUtf8_cons_char, Utf8.pieces_encodeChar, List.mapM_cons, ← ofChars,
      ih]
    rfl

end Text

structure IsWord (cs : List Char) : Prop where
  nonempty : cs ≠ []
  solid : ∀ c ∈ cs, isBlankChar c = false
  unbroken : '\x00' ∉ cs

instance (cs : List Char) : Decidable (IsWord cs) :=
  have : Decidable (∀ c ∈ cs, isBlankChar c = false) := List.decidableBAll _ cs
  decidable_of_iff (cs ≠ [] ∧ (∀ c ∈ cs, isBlankChar c = false) ∧ '\x00' ∉ cs)
    ⟨fun ⟨nonempty, solid, unbroken⟩ => ⟨nonempty, solid, unbroken⟩,
      fun h => ⟨h.nonempty, h.solid, h.unbroken⟩⟩

/-- What a listing says of one object of a commit. A path may have all bytes but null. -/
structure TreeEntry where
  mode : List Char
  kind : List Char
  id : List Char
  path : Bytes
  words : ∀ word ∈ [mode, kind, id], IsWord word
  named : path ≠ []
  unbroken : 0 ∉ path

namespace TreeEntry

def isFile (e : TreeEntry) : Bool := e.kind = ['b', 'l', 'o', 'b']

def name (e : TreeEntry) : Path := Text.ofUtf8 e.path

def description (e : TreeEntry) : List Char := e.mode ++ ' ' :: (e.kind ++ ' ' :: e.id)

def bytes (e : TreeEntry) : Bytes := (Text.ofChars e.description).toUtf8 ++ 9 :: e.path

def listing (entries : List TreeEntry) : Bytes := entries.flatMap fun e => e.bytes ++ [0]

variable {e : TreeEntry}

theorem mem_description {c : Char} (mem : c ∈ e.description) :
    c = ' ' ∨ ∃ word ∈ [e.mode, e.kind, e.id], c ∈ word := by
  simp only [description, List.mem_append, List.mem_cons] at mem
  rcases mem with mode | rfl | kind | rfl | id
  · exact .inr ⟨_, by simp, mode⟩
  · exact .inl rfl
  · exact .inr ⟨_, by simp, kind⟩
  · exact .inl rfl
  · exact .inr ⟨_, by simp, id⟩

theorem not_mem_toUtf8_description :
    9 ∉ (Text.ofChars e.description).toUtf8 ∧ 0 ∉ (Text.ofChars e.description).toUtf8 := by
  have prose : (Text.ofChars e.description).IsProse := by
    intro g mem
    obtain ⟨c, -, rfl⟩ := List.mem_map.mp mem
    exact ⟨c, rfl⟩
  have said {b : UInt8} (ascii : b.toNat < 0x80) (mem : b ∈ (Text.ofChars e.description).toUtf8) :
      Char.ofNat b.toNat ∈ e.description := by
    obtain ⟨c, within, same⟩ := List.mem_map.mp (Text.mem_of_mem_toUtf8 prose mem ascii)
    exact Glyph.char.inj same ▸ within
  constructor
  · intro mem
    rcases mem_description (said (by decide) mem) with space | ⟨word, isWord, tab⟩
    · exact absurd space (by decide)
    · cases (e.words word isWord).solid _ tab
  · intro mem
    rcases mem_description (said (by decide) mem) with space | ⟨word, isWord, null⟩
    · exact absurd space (by decide)
    · exact (e.words word isWord).unbroken null

theorem zero_not_mem_bytes : 0 ∉ e.bytes := by
  rw [bytes, List.mem_append, List.mem_cons, not_or, not_or]
  exact ⟨not_mem_toUtf8_description.2, by decide, e.unbroken⟩

theorem words_description :
    (Text.ofChars e.description).words =
      [Text.ofChars e.mode, Text.ofChars e.kind, Text.ofChars e.id] := by
  have solid (word : List Char) (mem : word ∈ [e.mode, e.kind, e.id]) :
      ∀ g ∈ Text.ofChars word, g.isBlank = false := by
    intro g within
    obtain ⟨c, hc, rfl⟩ := List.mem_map.mp within
    exact (e.words word mem).solid c hc
  have some (word : List Char) (mem : word ∈ [e.mode, e.kind, e.id]) : Text.ofChars word ≠ [] := by
    simpa [Text.ofChars] using (e.words word mem).nonempty
  have parts : Text.ofChars e.description =
      Text.ofChars e.mode ++
        .char ' ' :: (Text.ofChars e.kind ++ .char ' ' :: Text.ofChars e.id) := by
    simp [Text.ofChars, description]
  rw [parts, Text.words,
    List.splitOnP_append_cons_of_forall_mem (solid e.mode (by simp)) _ (by decide),
    List.splitOnP_append_cons_of_forall_mem (solid e.kind (by simp)) _ (by decide),
    List.splitOnP_eq_singleton (solid e.id (by simp))]
  simp [some]

theorem entryPath?_bytes :
    Repository.entryPath? e.bytes = .ok (if e.isFile then some e.name else none) := by
  have front : ∀ b ∈ (Text.ofChars e.description).toUtf8, decide (b ≠ 9) = true := by
    intro b mem
    rw [decide_eq_true_eq]
    rintro rfl
    exact not_mem_toUtf8_description.1 mem
  have ends : ∀ b ∈ (9 :: e.path).head?, decide (b ≠ 9) = false := by simp
  have isFile : (Text.ofChars e.kind = "blob") ↔ e.isFile = true := by
    rw [TreeEntry.isFile, decide_eq_true_eq]
    exact List.map_inj_right fun _ _ => Glyph.char.inj
  unfold Repository.entryPath? bytes
  rw [takeWhile_run front ends, dropWhile_run front ends, Text.ofUtf8?_toUtf8]
  dsimp only
  rw [words_description]
  simp only [isFile, List.drop_one, List.tail_cons, name]

theorem nullSeparated_listing (entries : List TreeEntry) :
    Repository.nullSeparated (listing entries) = entries.map bytes := by
  induction entries with
  | nil => rfl
  | cons e rest ih =>
    have some : e.bytes ≠ [] := by simp [bytes]
    have split : (listing (e :: rest)).splitOn 0 = e.bytes :: (listing rest).splitOn 0 := by
      rw [listing, List.flatMap_cons, List.append_assoc]
      exact List.splitOn_append_cons_self_of_not_mem zero_not_mem_bytes _
    rw [Repository.nullSeparated] at ih ⊢
    rw [split, List.filter_cons_of_pos (by simpa using some), ih, List.map_cons]

theorem listedPaths_listing (entries : List TreeEntry) :
    Repository.listedPaths (listing entries) = .ok ((entries.filter isFile).map name) := by
  have each : (entries.map bytes).mapM Repository.entryPath? =
      .ok (entries.map fun e => if e.isFile then some e.name else none) := by
    induction entries with
    | nil => rfl
    | cons e rest ih =>
      rw [List.map_cons, List.mapM_cons, entryPath?_bytes, ih]
      rfl
  rw [Repository.listedPaths, nullSeparated_listing, each]
  refine congrArg Except.ok ?_
  rw [List.filterMap_map, ← List.filterMap_eq_map, List.filterMap_filter]
  rfl

end TreeEntry

namespace Repository

open Access

/-- Whether a command asks for the bytes of a file. -/
def AsksForContent (arguments : List Text) : Prop :=
  arguments.head? = some (Text.ofString "cat-file")

instance (arguments : List Text) : Decidable (AsksForContent arguments) :=
  inferInstanceAs (Decidable (_ = _))

variable {r : Repository} {ref commit : Text} {files : List Path} {s t : Session Recollection}

theorem resolve_calls (r : Repository) (ref : Text) (s : Session Recollection) :
    ∃ made, ((r.resolve ref).perform s).2.memory.calls = s.memory.calls ++ made ∧
      ∀ call ∈ made, ¬ AsksForContent call.tail := by
  by_cases onDisk : ref = workTree
  · refine ⟨[], ?_, nofun⟩
    rw [resolve, if_pos onDisk, List.append_nil]
    rfl
  cases known : s.memory.commits.lookup ref with
  | some commit =>
    refine ⟨[], ?_, nofun⟩
    rw [resolve_known onDisk known, List.append_nil]
  | none =>
    obtain ⟨t, run, after⟩ := resolve_unknown (r := r) onDisk known
    refine ⟨[r.program :: commitCommand ref], ?_, ?_⟩
    · rw [run, after]
    · intro call mem
      rw [List.mem_singleton.mp mem]
      simp [AsksForContent, commitCommand, Text.ofString, Text.ofChars]

theorem tree_calls (r : Repository) (ref : Text) (s : Session Recollection) :
    ∃ made, ((r.tree ref).perform s).2.memory.calls = s.memory.calls ++ made ∧
      ∀ call ∈ made, ¬ AsksForContent call.tail := by
  obtain ⟨made, calls, others⟩ := resolve_calls r ref s
  rcases resolved : (r.resolve ref).perform s with ⟨fault | commit, t⟩
  · rw [resolved] at calls
    refine ⟨made, ?_, others⟩
    rw [tree, perform_bind_error resolved, calls]
  rw [resolved] at calls
  cases known : t.memory.trees.lookup commit with
  | some paths =>
    refine ⟨made, ?_, others⟩
    rw [tree_known resolved known, calls]
  | none =>
    obtain ⟨u, run, after⟩ := tree_unknown resolved known
    refine ⟨made ++ [r.program :: treeCommand commit], ?_, ?_⟩
    · rw [run, after, ← List.append_assoc, ← calls]
    · intro call mem
      rcases List.mem_append.mp mem with earlier | last
      · exact others call earlier
      · rw [List.mem_singleton.mp last]
        simp [AsksForContent, treeCommand, Text.ofString, Text.ofChars]

theorem commandsSince_read (faithful : r.Faithful s.memory) (other : ref ≠ workTree)
    (means : r.commitOf ref = .ok commit) (listed : r.filesOf ref = .ok files) (path : Path) :
    (s.commandsSince ((r.read ref path).perform s).2).filter (AsksForContent ·) =
      if path ∈ files then [contentCommand commit path] else [] := by
  -- Before the bytes of a file, git is asked at most for the commit and for its listing.
  obtain ⟨t, run, still⟩ := tree_answers ref s faithful
  rw [listed] at run
  obtain ⟨made, calls, others⟩ := tree_calls r ref s
  rw [run] at calls
  have quiet : (made.map List.tail).filter (AsksForContent ·) = [] := by
    rw [List.filter_eq_nil_iff]
    intro arguments mem
    obtain ⟨call, among, rfl⟩ := List.mem_map.mp mem
    simpa using others call among
  obtain ⟨found, known, -⟩ := tree_learns other run
  obtain rfl : found = commit :=
    Except.ok.inj ((still.commits ref found known).symm.trans means)
  rw [read, if_neg other, perform_bind_ok run]
  by_cases mem : path ∈ files
  · rw [if_pos mem, if_neg (by simpa using mem), perform_bind_ok (resolve_known other known),
      ← contentCommand]
    have after : ((r.runGit (contentCommand found path)).perform t).2.memory.calls =
        s.memory.calls ++ (made ++ [r.program :: contentCommand found path]) := by
      rw [perform_runGit, ← List.append_assoc, ← calls]
    have asked : (s.commandsSince ((r.runGit (contentCommand found path)).perform t).2).filter
        (AsksForContent ·) = [contentCommand found path] := by
      rw [Session.commandsSince_eq after, List.map_append, List.filter_append, quiet]
      rfl
    rcases ran : (r.runGit (contentCommand found path)).perform t with ⟨fault | result, u⟩
    · rw [perform_bind_error ran]
      rwa [ran] at asked
    · rw [perform_bind_ok ran]
      rw [ran] at asked
      split
      · exact asked
      · exact asked
  · rw [if_neg mem, if_pos (by simpa using mem)]
    exact (congrArg _ (Session.commandsSince_eq calls)).trans quiet

/-- Git lists a commit with some objects, whose paths are different and may have all bytes but null.
Then the files of a reference that means this commit are those of the objects that are files, each
once and with all its bytes. To read a path, git is asked for the bytes of this file if it is one of
them; its answer is what is read. It is asked for no bytes to read any other path, which does not
exist. -/
theorem inventory_of_commit (r : Repository) (ref commit : Text) (entries : List TreeEntry)
    (complaint : Bytes) (s : Session Recollection) (faithful : r.Faithful s.memory)
    (other : ref ≠ workTree) (means : r.commitOf ref = .ok commit)
    (answered : r.git (treeCommand commit) =
      .finished { code := 0, out := TreeEntry.listing entries, err := complaint })
    (apart : (entries.map TreeEntry.path).Nodup) :
    let objects := entries.filter TreeEntry.isFile
    let files := objects.map TreeEntry.name
    ((r.list ref).perform s).1 = .ok files ∧ files.Nodup ∧
      files.map Text.toUtf8 = objects.map TreeEntry.path ∧
      ∀ path,
        let read := (r.read ref path).perform s
        (s.commandsSince read.2).filter (AsksForContent ·) =
            (if path ∈ files then [contentCommand commit path] else []) ∧
          (path ∈ files →
            read.1 = (r.answer (contentCommand commit path)).map (heldBy ref path)) ∧
          (path ∉ files → read.1 = .ok (.ok none)) := by
  intro objects files
  have filesAt : r.filesAt ref commit = .ok files := by
    rw [Repository.filesAt, ← treeCommand, answer, answered]
    exact TreeEntry.listedPaths_listing entries
  have listed := listed_of_filesAt other means filesAt
  have bytes : files.map Text.toUtf8 = objects.map TreeEntry.path := by
    rw [List.map_map]
    exact List.map_congr_left fun e _ => Text.toUtf8_ofUtf8 e.path
  have paths : (objects.map TreeEntry.path).Nodup :=
    apart.sublist (List.filter_sublist.map TreeEntry.path)
  refine ⟨?_, (bytes ▸ paths).of_map, bytes, ?_⟩
  · rw [(list_answers ref).fst_perform faithful, listed]
  · intro path read
    refine ⟨?_, ?_, ?_⟩
    · exact commandsSince_read faithful other means (listed_eq_filesOf other ▸ listed) path
    · intro mem
      rw [(read_answers ref path).fst_perform faithful, content_of_listed other listed means mem]
    · intro absent
      rw [(read_answers ref path).fst_perform faithful, content_of_unlisted other listed absent]

theorem inventory_of_commit_with_stray_byte :
    let file : TreeEntry :=
      { mode := "100644".toList, kind := "blob".toList, id := "b1".toList,
        path := [97, 9, 255, 10], words := by decide, named := by decide, unbroken := by decide }
    let project : TreeEntry :=
      { mode := "160000".toList, kind := "commit".toList, id := "c1".toList, path := [109],
        words := by decide, named := by decide, unbroken := by decide }
    let path : Path := [.char 'a', .char '\t', .byte 255, .char '\n']
    let r : Repository := answering
      [(commitCommand "1", "c\n"),
        (treeCommand "c", Text.ofUtf8 (TreeEntry.listing [file, project]))] .timedOut
    let read (path : Path) := (r.read "1" path).perform { memory := {} }
    ((r.list "1").perform { memory := {} }).1 = .ok [path] ∧ path.toUtf8 = file.path ∧
      contentCommand "c" path ∈ Session.commandsSince { memory := {} } (read path).2 ∧
      (read "m").1 = .ok (.ok none) := by
  intro file project path r read
  obtain ⟨listed, -, bytes, each⟩ := inventory_of_commit r "1" "c" [file, project] []
    { memory := {} } r.faithful_empty (by decide) (by decide +kernel) (by decide +kernel) (by decide)
  have files : ([file, project].filter TreeEntry.isFile).map TreeEntry.name = [path] := by
    decide +kernel
  rw [files] at listed bytes each
  obtain ⟨asked, -⟩ := each path
  obtain ⟨-, -, absent⟩ := each "m"
  refine ⟨listed, List.singleton_injective bytes, ?_, absent (by decide)⟩
  apply List.mem_of_mem_filter
  rw [asked, if_pos (List.mem_singleton_self path)]
  exact List.mem_singleton_self _

end Repository
end Lockstep

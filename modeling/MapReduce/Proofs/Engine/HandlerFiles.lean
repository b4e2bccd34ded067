import MapReduce.Proofs.Kv.Paths
import Mathlib

/-! # Handler files below the file root

A handler reaches its files through a path relative to its workflow's directory below the file
root. The relative path must be plain: not empty, and every component of it, read as a file system
path reads (`PathText.components`), a name: no root, no leading `.`, no `..`
(`handlerFilePath_eq_error_iff`). The file is then at the root, the workflow and the relative path
joined, and its lexical normal form (`PathText.normalize`) is the root's, then the workflow, then the
names of the relative path (`normalize_handlerFilePath`).

So a file lies strictly inside the root (`PathText.StrictlyInside`) whenever the workflow is a valid
segment other than `..`. A workflow named `..` is a valid segment as well, and its files lie below
the root's parent instead (`normalize_handlerFilePath_up`). -/

namespace MapReduce

namespace PathText

/-- A component of a path: the root, the current directory, the parent, or a name. -/
inductive Component where
  | rootDir
  | curDir
  | parentDir
  | normal (name : String)
  deriving DecidableEq, Repr

/-- Whether a component is a plain name. -/
def Component.isName : Component → Bool
  | .normal _ => true
  | _ => false

@[simp] theorem Component.isName_normal (n : String) : (Component.normal n).isName = true := rfl
@[simp] theorem Component.isName_rootDir : Component.rootDir.isName = false := rfl
@[simp] theorem Component.isName_curDir : Component.curDir.isName = false := rfl
@[simp] theorem Component.isName_parentDir : Component.parentDir.isName = false := rfl

/-- The component of a piece after the first: empty pieces and `.` stand for nothing. -/
def piece : String → Option Component
  | "" => none
  | "." => none
  | ".." => some .parentDir
  | name => some (.normal name)

/-- The components of the pieces of a path text: a first empty piece before others is the root, a
first `.` the current directory, and the rest are read as `piece` reads them. -/
def ofPieces : List String → List Component
  | [] => []
  | first :: rest =>
    let lead : List Component :=
      if first = "" then (if rest = [] then [] else [.rootDir])
      else if first = "." then [.curDir]
      else (piece first).toList
    lead ++ rest.filterMap piece

/-- The components of a path text as a file system path reads them: the text is split at `/`, a
leading `/` is the root, a leading `.` the current directory, `..` the parent, and empty and
inner `.` pieces stand for nothing. -/
def components (s : String) : List Component := ofPieces (s.splitOn "/")

/-- One more component on a lexically normalised path, kept innermost first: the root starts
over, `.` stands for nothing, `..` drops the name before it, stays at the root, and is kept where
there is no name to drop. -/
def push : List Component → Component → List Component
  | _, .rootDir => [.rootDir]
  | acc, .curDir => acc
  | .normal _ :: acc, .parentDir => acc
  | [.rootDir], .parentDir => [.rootDir]
  | acc, .parentDir => .parentDir :: acc
  | acc, .normal n => .normal n :: acc

/-- The lexical normal form of a path text, innermost component first. -/
def normalize (s : String) : List Component := (components s).foldl push []

/-- `p` lies strictly inside `root`: the normal form of `p` is the root's with at least one more
name. -/
def StrictlyInside (root p : String) : Prop :=
  ∃ names : List String, names ≠ [] ∧ normalize p = names.reverse.map .normal ++ normalize root

/-! ## Pieces and components -/

/-- The pieces of a text, a `/` and another are the pieces of the first, then of the second. -/
theorem splitOn_append_slash (s t : String) :
    (s ++ "/" ++ t).splitOn "/" = s.splitOn "/" ++ t.splitOn "/" := by
  simp only [Identity.splitOn_slash, String.toList_append, List.append_assoc,
    show "/".toList = ['/'] from rfl, List.singleton_append, List.splitOn_append_cons_self,
    List.map_append]

/-- The empty text is one empty piece. -/
theorem splitOn_empty : "".splitOn "/" = [""] := by
  simp [Identity.splitOn_slash]

/-- A text has at least one piece. -/
theorem splitOn_ne_nil (s : String) : s.splitOn "/" ≠ [] := by
  simp [Identity.splitOn_slash, List.splitOn_ne_nil]

/-- The only text whose pieces are one empty piece is the empty text. -/
theorem eq_empty_of_splitOn {s : String} (h : s.splitOn "/" = [""]) : s = "" := by
  have := Identity.display_splitOn s
  rw [← Identity.splitOn_slash, h] at this
  exact this.symm

/-- Components of a path that goes on after a non-empty text and a `/`: the text's components,
then those of the further pieces. -/
theorem components_append_slash {s : String} (hs : s ≠ "") (t : String) :
    components (s ++ "/" ++ t) = components s ++ (t.splitOn "/").filterMap piece := by
  unfold components
  rw [splitOn_append_slash]
  obtain ⟨first, rest, hfr⟩ := List.exists_cons_of_ne_nil (splitOn_ne_nil s)
  have ht := splitOn_ne_nil t
  rw [hfr, List.cons_append]
  have hlead : (first = "" → rest ≠ []) := by
    rintro rfl rfl
    exact hs (eq_empty_of_splitOn hfr)
  by_cases hf : first = ""
  · simp [ofPieces, hf, hlead hf, ht]
  · simp [ofPieces, hf]

/-- The components of a path starting at the root. -/
theorem components_slash_append (t : String) :
    components ("/" ++ t) = .rootDir :: (t.splitOn "/").filterMap piece := by
  have h := splitOn_append_slash "" t
  rw [String.empty_append] at h
  simp [components, h, splitOn_empty, ofPieces, splitOn_ne_nil t]

/-- A text starts with `/` exactly when its first piece is empty and others follow. -/
theorem startsWith_slash_iff {s : String} :
    s.startsWith "/" = true ↔ ∃ rest, rest ≠ [] ∧ s.splitOn "/" = "" :: rest := by
  have hslash : "/".toList = ['/'] := rfl
  rw [String.startsWith_string_iff, Identity.splitOn_slash, hslash]
  cases hs : s.toList with
  | nil => simp
  | cons c t =>
    rw [List.splitOn_cons_eq_if_modifyHead]
    by_cases hc : c = '/'
    · subst hc
      simp
    · obtain ⟨q, qs, hq⟩ := List.exists_cons_of_ne_nil (List.splitOn_ne_nil '/' t)
      simp [hc, hq, Ne.symm hc]

/-- A text that does not start with `/` has an empty first piece only when it is the only one. -/
theorem rest_eq_nil_of_not_rooted {s first : String} {rest : List String}
    (hs : s.startsWith "/" = false) (h : s.splitOn "/" = first :: rest) (hf : first = "") :
    rest = [] := by
  by_contra hrest
  subst hf
  have := startsWith_slash_iff.mpr ⟨rest, hrest, h⟩
  simp [hs] at this

/-- A text ending in `/` is another text and a `/`. -/
theorem eq_append_slash_of_endsWith {s : String} (h : s.endsWith "/" = true) :
    ∃ b, s = b ++ "/" := by
  have hsuf : "/".toList <:+ s.toList := by
    simpa using (String.Slice.endsWith_string_iff (s := s.toSlice)).mp h
  obtain ⟨l, hl⟩ := hsuf
  exact ⟨String.ofList l, String.toList_injective (by simp [← hl])⟩

/-! ## Normal forms -/

/-- Pushing plain names puts them before the normal form, innermost first. -/
theorem foldl_push_names (names : List String) (acc : List Component) :
    (names.map Component.normal).foldl push acc = names.reverse.map .normal ++ acc := by
  induction names generalizing acc with
  | nil => rfl
  | cons n rest ih => simp [push, ih]

/-- Components whose first piece is empty only when alone push as their pieces do. -/
theorem foldl_ofPieces {first : String} {rest : List String} (h : first = "" → rest = [])
    (acc : List Component) :
    (ofPieces (first :: rest)).foldl push acc = ((first :: rest).filterMap piece).foldl push acc := by
  by_cases he : first = ""
  · subst he
    simp [ofPieces, h rfl, piece]
  · by_cases hd : first = "."
    · subst hd
      simp [ofPieces, piece, push]
    · cases hp : piece first <;> simp [ofPieces, he, hd, hp]

/-- The normal form of a text that does not start with `/`: its pieces pushed onto nothing. -/
theorem normalize_of_not_rooted {s : String} (hs : s.startsWith "/" = false) :
    normalize s = ((s.splitOn "/").filterMap piece).foldl push [] := by
  obtain ⟨first, rest, hfr⟩ := List.exists_cons_of_ne_nil (splitOn_ne_nil s)
  rw [normalize, components, hfr]
  exact foldl_ofPieces (rest_eq_nil_of_not_rooted hs hfr) []

@[simp] theorem normalize_empty : normalize "" = [] := by
  simp [normalize, components, splitOn_empty, ofPieces]

@[simp] theorem normalize_slash : normalize "/" = [.rootDir] := by
  have h := components_slash_append ""
  rw [String.append_empty, splitOn_empty] at h
  simp [normalize, h, piece, push]

/-- Joining a text that does not start with `/` onto a base pushes its pieces onto the base's
normal form, whether the base is empty, ends in `/` or gets one. -/
theorem normalize_joinPath (base : String) {rel : String} (hrel : rel.startsWith "/" = false) :
    normalize (joinPath base rel) =
      ((rel.splitOn "/").filterMap piece).foldl push (normalize base) := by
  unfold joinPath
  rw [if_neg (by simp [hrel])]
  by_cases hb : base = ""
  · subst hb
    simp [normalize_of_not_rooted hrel]
  by_cases hend : base.endsWith "/" = true
  · rw [if_pos (by simp [hend])]
    obtain ⟨b, rfl⟩ := eq_append_slash_of_endsWith hend
    by_cases hb' : b = ""
    · -- the base is the root itself
      subst hb'
      simp only [String.empty_append, normalize_slash]
      simp [normalize, components_slash_append, push]
    · have hbase := components_append_slash hb' ""
      rw [String.append_empty, splitOn_empty] at hbase
      simp [normalize, components_append_slash hb', hbase, piece]
  · rw [if_neg (by simp [hb, hend])]
    simp only [normalize, components_append_slash hb, List.foldl_append]

/-- The names among the pieces of a path without `..`: each piece that is neither empty nor `.`. -/
def names (ps : List String) : List String := ps.filter fun q => q ≠ "" ∧ q ≠ "."

/-- Without `..`, the components of further pieces are the names among them. -/
theorem filterMap_piece_of_no_parent {ps : List String} (h : ".." ∉ ps) :
    ps.filterMap piece = (names ps).map .normal := by
  induction ps with
  | nil => rfl
  | cons q rest ih =>
    have hq : q ≠ ".." := fun hq => h (hq ▸ List.mem_cons_self)
    have hrest : ".." ∉ rest := fun hr => h (List.mem_cons_of_mem q hr)
    by_cases he : q = ""
    · subst he; simp [piece, names, ih hrest]
    · by_cases hd : q = "."
      · subst hd; simp [piece, names, ih hrest]
      · have hp : piece q = some (.normal q) := by
          unfold piece; split <;> simp_all
        simp [hp, names, he, hd, ih hrest]

end PathText

/-! ## Plain relative paths -/

open PathText in
/-- A relative path is plain exactly when it is not empty and all its components are names. -/
theorem isPlainRelative_iff {rel : String} (hrel : rel ≠ "") :
    isPlainRelative rel = true ↔ ∀ c ∈ components rel, c.isName = true := by
  unfold isPlainRelative components
  obtain ⟨first, rest, hfr⟩ := List.exists_cons_of_ne_nil (splitOn_ne_nil rel)
  rw [hfr]
  have hrestnames : (∀ c ∈ rest.filterMap piece, c.isName = true) ↔ ∀ r ∈ rest, r ≠ ".." := by
    constructor
    · intro h r hr hdots
      exact absurd (h .parentDir (List.mem_filterMap.mpr ⟨r, hr, by simp [hdots, piece]⟩)) (by decide)
    · intro h c hc
      obtain ⟨r, hr, hrc⟩ := List.mem_filterMap.mp hc
      unfold piece at hrc
      split at hrc
      · cases hrc
      · cases hrc
      · exact absurd rfl (h _ hr)
      · cases hrc
        rfl
  by_cases he : first = ""
  · -- an empty first piece is the root, since the path is not empty
    have hrest : rest ≠ [] := by
      rintro rfl
      exact hrel (eq_empty_of_splitOn (he ▸ hfr))
    simp [ofPieces, he, hrest]
  · by_cases hd : first = "."
    · simp [ofPieces, hd]
    · by_cases hp : first = ".."
      · simp [ofPieces, hp, piece]
      · have hpiece : piece first = some (.normal first) := by
          unfold piece; split <;> simp_all
        simp only [ofPieces, he, hd, hpiece, if_false, Option.toList_some, List.singleton_append,
          List.mem_cons, forall_eq_or_imp, Component.isName_normal, true_and, hrestnames]
        simp [he, hd, hp]

/-- A relative path is refused exactly when it is empty or has a component that is not a name. -/
theorem refused_iff (rel : String) :
    (rel.isEmpty || !isPlainRelative rel) = true ↔
      rel = "" ∨ ∃ c ∈ PathText.components rel, c.isName = false := by
  by_cases hrel : rel = ""
  · simp [hrel]
  · have hplain := isPlainRelative_iff hrel
    simp only [Bool.or_eq_true, String.isEmpty_iff, hrel, false_or, Bool.not_eq_true']
    rw [← Bool.not_eq_true, hplain]
    simp

/-- The path of a handler file fails exactly on an empty path or one with a component that is not
a name, and its failure names the path. -/
theorem handlerFilePath_eq_error_iff {root wf rel : String} {err : EngineError} :
    handlerFilePath root wf rel = .error err ↔
      (rel = "" ∨ ∃ c ∈ PathText.components rel, c.isName = false) ∧
        err = .validation ("ruta de fichero no permitida: " ++ rel) := by
  unfold handlerFilePath
  split
  · rename_i hc
    rw [Except.error.injEq, eq_comm]
    exact ⟨fun h => ⟨(refused_iff rel).mp hc, h⟩, fun h => h.2⟩
  · rename_i hc
    simp only [reduceCtorEq, false_iff, not_and]
    exact fun h => absurd ((refused_iff rel).mpr h) hc

/-! ## Where a handler file lies -/

/-- A handler file's path is found only for a plain relative path, and is the root, the workflow
and the relative path joined. -/
theorem plain_of_handlerFilePath {root wf rel p : String} (h : handlerFilePath root wf rel = .ok p) :
    isPlainRelative rel = true ∧ p = joinPath (joinPath root wf) rel := by
  unfold handlerFilePath at h
  split at h
  · cases h
  · rename_i hc
    cases h
    simp only [Bool.or_eq_true, not_or, Bool.not_eq_true'] at hc
    exact ⟨by simpa using hc.2, rfl⟩

/-- The pieces of a plain relative path: a name first, and no `..` anywhere. -/
theorem pieces_of_plain {rel : String} (h : isPlainRelative rel = true) :
    ∃ first rest, rel.splitOn "/" = first :: rest ∧ first ≠ "" ∧ first ≠ "." ∧
      ".." ∉ first :: rest := by
  unfold isPlainRelative at h
  split at h
  · cases h
  · rename_i first rest hfr
    simp only [Bool.and_eq_true, decide_eq_true_eq, List.all_eq_true] at h
    obtain ⟨⟨⟨he, hd⟩, hdd⟩, hrest⟩ := h
    refine ⟨first, rest, hfr, he, hd, ?_⟩
    simp only [List.mem_cons, not_or]
    exact ⟨Ne.symm hdd, fun hr => by simpa using hrest _ hr⟩

/-- A plain relative path does not start with `/`. -/
theorem not_rooted_of_plain {rel : String} (h : isPlainRelative rel = true) :
    rel.startsWith "/" = false := by
  obtain ⟨first, rest, hfr, he, -, -⟩ := pieces_of_plain h
  cases hs : rel.startsWith "/"
  · rfl
  · obtain ⟨rest', -, h'⟩ := PathText.startsWith_slash_iff.mp hs
    rw [hfr] at h'
    exact absurd (List.cons.inj h').1 he

/-- A valid segment is a single piece, and does not start with `/`. -/
theorem pieces_of_validSegment {wf : String} (hwf : Identity.ValidSegment wf) :
    wf.splitOn "/" = [wf] ∧ wf.startsWith "/" = false := by
  obtain ⟨-, hslash, -⟩ := hwf
  refine ⟨by simp [Identity.splitOn_slash, List.splitOn_eq_singleton hslash], ?_⟩
  rw [String.startsWith_string_eq_false_iff]
  exact fun hpre => hslash (hpre.subset (by simp [show "/".toList = ['/'] from rfl]))

/-- The normal form of a handler file's path: the root's, then the pieces of the workflow and of
the relative path pushed in turn. -/
theorem normalize_handlerFilePath {root wf rel p : String} (hwf : Identity.ValidSegment wf)
    (h : handlerFilePath root wf rel = .ok p) :
    p = joinPath (joinPath root wf) rel ∧
      PathText.normalize p = ((wf :: rel.splitOn "/").filterMap PathText.piece).foldl PathText.push
        (PathText.normalize root) := by
  obtain ⟨hplain, rfl⟩ := plain_of_handlerFilePath h
  obtain ⟨hwfpieces, hwfroot⟩ := pieces_of_validSegment hwf
  refine ⟨rfl, ?_⟩
  rw [PathText.normalize_joinPath _ (not_rooted_of_plain hplain),
    PathText.normalize_joinPath _ hwfroot, hwfpieces, ← List.foldl_append, ← List.filterMap_append,
    List.singleton_append]

/-- The files of a workflow that is a valid segment other than `..` lie strictly inside the root. -/
theorem handlerFilePath_strictlyInside {root wf rel p : String} (hwf : Identity.ValidSegment wf)
    (hup : wf ≠ "..") (h : handlerFilePath root wf rel = .ok p) : PathText.StrictlyInside root p := by
  obtain ⟨-, hnorm⟩ := normalize_handlerFilePath hwf h
  obtain ⟨first, rest, hfr, he, hd, hdots⟩ := pieces_of_plain (plain_of_handlerFilePath h).1
  rw [hfr] at hnorm
  have hnodots : ".." ∉ wf :: first :: rest := by
    simp only [List.mem_cons, not_or] at hdots ⊢
    exact ⟨Ne.symm hup, hdots⟩
  refine ⟨PathText.names (wf :: first :: rest), ?_, ?_⟩
  · have : first ∈ PathText.names (wf :: first :: rest) := by
      simp [PathText.names, he, hd]
    exact List.ne_nil_of_mem this
  · rw [hnorm, PathText.filterMap_piece_of_no_parent hnodots, PathText.foldl_push_names]

/-- The files of a workflow named `..` lie below the root's parent: their normal form is the names of
the relative path on the root's normal form with a `..` pushed. -/
theorem normalize_handlerFilePath_up {root rel p : String} (h : handlerFilePath root ".." rel = .ok p) :
    PathText.normalize p = (PathText.names (rel.splitOn "/")).reverse.map .normal ++
      PathText.push (PathText.normalize root) .parentDir := by
  have hup : Identity.ValidSegment ".." := ⟨by decide, by decide, by decide⟩
  obtain ⟨-, hnorm⟩ := normalize_handlerFilePath hup h
  obtain ⟨first, rest, hfr, -, -, hdots⟩ := pieces_of_plain (plain_of_handlerFilePath h).1
  rw [hnorm, hfr, List.filterMap_cons_some (by rfl), List.foldl_cons,
    PathText.filterMap_piece_of_no_parent hdots, PathText.foldl_push_names]

/-- A handler's file path is refused, with a message naming it, exactly for an empty relative path
or one with a component that is not a name; otherwise it is the root, the workflow and the relative
path joined, and lies strictly inside the root, for every workflow that is a valid segment other
than `..`. -/
theorem Engine.filePath_inside_root (e : Engine) (wf rel : String) (hwf : Identity.ValidSegment wf)
    (hup : wf ≠ "..") :
    (∀ err, e.filePath wf rel = .error err ↔
      (rel = "" ∨ ∃ c ∈ PathText.components rel, c.isName = false) ∧
        err = .validation ("ruta de fichero no permitida: " ++ rel)) ∧
    ∀ p, e.filePath wf rel = .ok p →
      p = joinPath (joinPath e.config.fileRoot wf) rel ∧ PathText.StrictlyInside e.config.fileRoot p :=
  ⟨fun _ => handlerFilePath_eq_error_iff,
    fun _ h => ⟨(plain_of_handlerFilePath h).2, handlerFilePath_strictlyInside hwf hup h⟩⟩

/-- The files of workflow `wf` of an engine with the default root lie strictly inside it. -/
theorem Engine.filePath_inside_default_root :
    Identity.ValidSegment "wf" ∧ "wf" ≠ ".." ∧
      ∀ p, ({} : Engine).filePath "wf" "data/part" = .ok p →
        PathText.StrictlyInside ({} : Engine).config.fileRoot p := by
  have hv : Identity.ValidSegment "wf" := ⟨by decide, by decide, by decide⟩
  have hne : "wf" ≠ ".." := by decide
  exact ⟨hv, hne, fun p hp => ((Engine.filePath_inside_root {} "wf" "data/part" hv hne).2 p hp).2⟩

end MapReduce

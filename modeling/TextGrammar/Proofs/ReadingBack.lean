import TextGrammar.GrammarFile.Basic
import TextGrammar.Proofs.JsonText
import TextGrammar.Proofs.NameOrder
/-!
# Reading back declarations

Declarations and grammar files are written in one spelling and read in several. What is written is
read back as it was, and writing never nests deeper than the spelling that was read.
-/
namespace TextGrammar

theorem mapM_eq_some_iff {α β : Type} {f : α → Option β} {items : List α} {results : List β} :
    items.mapM f = some results ↔ items.map f = results.map some := by
  induction items generalizing results with
  | nil => cases results <;> simp
  | cons item items ih =>
    cases results with
    | nil => simp [Option.bind_eq_some_iff]
    | cons result results => simp [Option.bind_eq_some_iff, ih]

theorem exists_mem_of_mapM {α β : Type} {f : α → Option β} {items : List α} {results : List β}
    (h : items.mapM f = some results) {result : β} (hresult : result ∈ results) :
    ∃ item ∈ items, f item = some result := by
  have hmem : some result ∈ results.map some := List.mem_map_of_mem hresult
  rw [← mapM_eq_some_iff.mp h] at hmem
  exact List.mem_map.mp hmem

theorem mapM_congr {α β : Type} {f g : α → Option β} {items : List α}
    (h : ∀ item ∈ items, f item = g item) : items.mapM f = items.mapM g := by
  ext results
  rw [mapM_eq_some_iff, mapM_eq_some_iff, List.map_congr_left h]

namespace Document

theorem itemsDepth_le_iff {items : List Document} {depth : Nat} :
    itemsDepth items ≤ depth ↔ ∀ item ∈ items, item.depth ≤ depth := by
  induction items with
  | nil => simp [itemsDepth]
  | cons item items ih => rw [itemsDepth, Nat.max_le, ih, List.forall_mem_cons]

theorem membersDepth_le_iff {members : List (String × Document)} {depth : Nat} :
    membersDepth members ≤ depth ↔ ∀ member ∈ members, member.2.depth ≤ depth := by
  induction members with
  | nil => simp [membersDepth]
  | cons member members ih => rw [membersDepth, Nat.max_le, ih, List.forall_mem_cons]

theorem mem_of_member? {members : List (String × Document)} {name : String} {value : Document}
    (h : member? members name = some (some value)) : (name, value) ∈ members := by
  rw [member?] at h
  split at h
  · cases h
  · next member hmember =>
    cases h
    obtain ⟨hmem, hname⟩ := List.mem_filter.mp (hmember ▸ List.mem_singleton_self member)
    rw [← beq_iff_eq.mp hname]
    exact hmem
  · cases h

theorem depth_lt_of_fields {rules : FormatRules} {names : List String} {document value : Document}
    {values : List (Option Document)} (h : document.fields rules names = some values)
    (hvalue : some value ∈ values) : value.depth < document.depth := by
  cases document with
  | object members =>
    rw [fields] at h
    split at h
    · cases h
    · obtain ⟨name, _, hname⟩ := exists_mem_of_mapM h hvalue
      rw [depth, Nat.lt_succ_iff]
      exact membersDepth_le_iff.mp (Nat.le_refl _) _ (mem_of_member? hname)
  | array items =>
    rw [fields] at h
    split at h
    · cases h
    · cases h
      obtain ⟨i, _, hi⟩ := List.mem_map.mp hvalue
      rw [depth, Nat.lt_succ_iff]
      exact itemsDepth_le_iff.mp (Nat.le_refl _) value (List.mem_of_getElem? hi)
  | null | bool | integer | decimal | string | moment | unreadable => cases h

end Document

namespace NodeDecl

def parts : NodeDecl → List NodeDecl
  | .terminal _ | .rule _ => []
  | .sequence parts | .collect parts | .alternation parts => parts
  | .attribute _ part | .ignore part | .optional part | .repetition part _ | .atLeastOnce part
  | .anyNumber part | .list part none => [part]
  | .list item (some separator) => [item, separator]

theorem toDocuments_eq_map (decls : List NodeDecl) : toDocuments decls = decls.map toDocument := by
  induction decls with
  | nil => rfl
  | cons decl decls ih => rw [toDocuments, ih, List.map_cons]

theorem exists_toDocument_eq (decl : NodeDecl) :
    ∃ kind content, decl.toDocument = .object [(kind, content)] := by
  cases decl with
  | list item separator => cases separator <;> exact ⟨_, _, by rw [toDocument]⟩
  | _ => exact ⟨_, _, by rw [toDocument]⟩

theorem depth_toDocument_lt {decl part : NodeDecl} (h : part ∈ decl.parts) :
    part.toDocument.depth < decl.toDocument.depth := by
  match decl, h with
  | .sequence parts, h | .collect parts, h | .alternation parts, h =>
    have hpart : part.toDocument ∈ parts.map toDocument := List.mem_map_of_mem h
    have hle := Document.itemsDepth_le_iff.mp (Nat.le_refl _) _ hpart
    simp only [toDocument, toDocuments_eq_map, Document.depth, Document.membersDepth]
    omega
  | .attribute _ part, h | .ignore part, h | .optional part, h | .repetition part _, h
  | .atLeastOnce part, h | .anyNumber part, h | .list part none, h =>
    obtain rfl := List.mem_singleton.mp h
    simp only [toDocument, Document.depth, Document.membersDepth]
    omega
  | .list item (some separator), h =>
    simp only [parts, List.mem_cons, List.not_mem_nil, or_false] at h
    simp only [toDocument, Document.depth, Document.membersDepth]
    rcases h with rfl | rfl <;> omega

theorem isPlain_toDocument_of_parts {decl : NodeDecl}
    (h : ∀ part ∈ decl.parts, part.toDocument.IsPlain) : decl.toDocument.IsPlain := by
  match decl, h with
  | .terminal _, _ | .rule _, _ => simp [toDocument]
  | .sequence decls, h | .collect decls, h | .alternation decls, h =>
    simpa [toDocument, toDocuments_eq_map, parts] using h
  | .attribute _ part, h | .ignore part, h | .optional part, h | .repetition part _, h
  | .atLeastOnce part, h | .anyNumber part, h | .list part none, h =>
    simpa [toDocument, parts] using h
  | .list item (some separator), h => simpa [toDocument, parts] using h

theorem isPlain_toDocument (decl : NodeDecl) : decl.toDocument.IsPlain := by
  induction hdepth : decl.toDocument.depth using Nat.strongRecOn generalizing decl with
  | _ depth ih =>
    apply isPlain_toDocument_of_parts
    intro part hpart
    exact ih _ (hdepth ▸ depth_toDocument_lt hpart) part rfl

theorem readNode_toDocument (rules : FormatRules) {readPart : Document → Option NodeDecl}
    {decl : NodeDecl} (h : ∀ part ∈ decl.parts, readPart part.toDocument = some part) :
    readNode rules readPart decl.toDocument = some decl := by
  match decl, h with
  | .terminal _, _ | .rule _, _ => simp [toDocument, readNode, Document.string?]
  | .sequence parts, h | .collect parts, h | .alternation parts, h =>
    have hparts : (parts.map toDocument).mapM readPart = some parts := by
      rw [mapM_eq_some_iff, List.map_map]
      exact List.map_congr_left h
    simp [toDocument, readNode, Document.array?, toDocuments_eq_map, hparts]
  | .ignore part, h | .optional part, h | .atLeastOnce part, h | .anyNumber part, h =>
    have hpart := h part (List.mem_singleton_self part)
    simp [toDocument, readNode, hpart]
  | .attribute name part, h =>
    have hpart := h part (List.mem_singleton_self part)
    simp [toDocument, readNode, Document.fields, Document.member?, Document.string?, hpart]
  | .repetition part allowZero, h =>
    have hpart := h part (List.mem_singleton_self part)
    simp [toDocument, readNode, Document.fields, Document.member?, Document.bool?, hpart]
  | .list item none, h =>
    have hitem := h item (List.mem_singleton_self item)
    simp [toDocument, readNode, Document.fields, Document.member?, hitem]
  | .list item (some separator), h =>
    have hitem := h item List.mem_cons_self
    have hseparator := h separator (List.mem_cons_of_mem _ List.mem_cons_self)
    -- A separator is never written as null, which would be read as none.
    obtain ⟨kind, content, hwritten⟩ := exists_toDocument_eq separator
    rw [hwritten] at hseparator
    simp [toDocument, readNode, Document.fields, Document.member?, hwritten, hitem, hseparator]

theorem read_toDocument (rules : FormatRules) {decl : NodeDecl} {depth : Nat}
    (h : decl.toDocument.depth ≤ depth) : read rules depth decl.toDocument = some decl := by
  induction depth generalizing decl with
  | zero =>
    obtain ⟨kind, content, hwritten⟩ := exists_toDocument_eq decl
    simp [hwritten, Document.depth] at h
  | succ depth ih =>
    rw [read]
    apply readNode_toDocument
    intro part hpart
    have := depth_toDocument_lt hpart
    exact ih (by omega)

section Step

variable {rules : FormatRules} {readPart : Document → Option NodeDecl}
  (hparts : ∀ document part, readPart document = some part → part.toDocument.depth ≤ document.depth)

include hparts

theorem depth_of_readParts {content : Document} {decls : List NodeDecl}
    (h : (content.array?.bind fun items => items.mapM readPart) = some decls) :
    Document.itemsDepth (toDocuments decls) + 1 ≤ content.depth := by
  obtain ⟨items, hitems, hdecls⟩ := Option.bind_eq_some_iff.mp h
  cases content with
  | array =>
    cases hitems
    rw [Document.depth, Nat.add_le_add_iff_right, toDocuments_eq_map, Document.itemsDepth_le_iff]
    intro document hdocument
    obtain ⟨decl, hdecl, rfl⟩ := List.mem_map.mp hdocument
    obtain ⟨item, hitem, hread⟩ := exists_mem_of_mapM hdecls hdecl
    exact Nat.le_trans (hparts item decl hread)
      (Document.itemsDepth_le_iff.mp (Nat.le_refl _) item hitem)
  | _ => cases hitems

theorem depth_of_readField {names : List String} {content value : Document}
    {values : List (Option Document)} {part : NodeDecl}
    (hfields : content.fields rules names = some values) (hvalue : some value ∈ values)
    (hread : readPart value = some part) : part.toDocument.depth + 1 ≤ content.depth :=
  Nat.lt_of_le_of_lt (hparts value part hread) (Document.depth_lt_of_fields hfields hvalue)

theorem depth_toDocument_readNode {document : Document} {decl : NodeDecl}
    (h : readNode rules readPart document = some decl) :
    decl.toDocument.depth ≤ document.depth := by
  unfold readNode at h
  split at h
  · next kind content =>
    dsimp only at h
    simp only [Document.depth, Document.membersDepth, Nat.max_zero]
    split at h
    -- The kinds that hold a text.
    case h_1 | h_2 =>
      obtain ⟨text, _, rfl⟩ := Option.map_eq_some_iff.mp h
      simp [toDocument, Document.depth, Document.membersDepth]
    -- The kinds that hold several parts.
    case h_3 | h_4 | h_5 =>
      obtain ⟨decls, hdecls, rfl⟩ := Option.map_eq_some_iff.mp h
      have hdepth := depth_of_readParts hparts hdecls
      simp only [toDocument, Document.depth, Document.membersDepth]
      omega
    -- The kinds that hold one part.
    case h_6 | h_7 | h_8 | h_9 =>
      obtain ⟨part, hread, rfl⟩ := Option.map_eq_some_iff.mp h
      have hdepth := hparts content part hread
      simp only [toDocument, Document.depth, Document.membersDepth]
      omega
    case h_10 =>
      split at h
      · next name part hfields =>
        obtain ⟨text, _, h⟩ := Option.bind_eq_some_iff.mp h
        obtain ⟨decl, hread, ⟨⟩⟩ := Option.bind_eq_some_iff.mp h
        have hdepth := depth_of_readField hparts hfields (by simp) hread
        simp only [toDocument, Document.depth, Document.membersDepth]
        omega
      · cases h
    case h_11 =>
      split at h
      · next part hfields =>
        obtain ⟨decl, hread, ⟨⟩⟩ := Option.bind_eq_some_iff.mp h
        have hdepth := depth_of_readField hparts hfields (by simp) hread
        simp only [toDocument, Document.depth, Document.membersDepth]
        omega
      · next part allowZero hfields =>
        obtain ⟨decl, hread, h⟩ := Option.bind_eq_some_iff.mp h
        obtain ⟨flag, _, ⟨⟩⟩ := Option.bind_eq_some_iff.mp h
        have hdepth := depth_of_readField hparts hfields (by simp) hread
        simp only [toDocument, Document.depth, Document.membersDepth]
        omega
      · cases h
    case h_12 =>
      split at h
      · next item hfields =>
        obtain ⟨decl, hread, ⟨⟩⟩ := Option.bind_eq_some_iff.mp h
        have hdepth := depth_of_readField hparts hfields (by simp) hread
        simp only [toDocument, Document.depth, Document.membersDepth]
        omega
      · next item hfields =>
        obtain ⟨decl, hread, ⟨⟩⟩ := Option.bind_eq_some_iff.mp h
        have hdepth := depth_of_readField hparts hfields (by simp) hread
        simp only [toDocument, Document.depth, Document.membersDepth]
        omega
      · next item separator _ hfields =>
        obtain ⟨decl, hread, h⟩ := Option.bind_eq_some_iff.mp h
        obtain ⟨decl', hread', ⟨⟩⟩ := Option.bind_eq_some_iff.mp h
        have hdepth := depth_of_readField hparts hfields (by simp) hread
        have hdepth' := depth_of_readField hparts hfields (by simp) hread'
        simp only [toDocument, Document.depth, Document.membersDepth]
        omega
      · cases h
    case h_13 => cases h
  · cases h

end Step

theorem depth_toDocument_le {rules : FormatRules} {depth : Nat} {document : Document}
    {decl : NodeDecl} (h : read rules depth document = some decl) :
    decl.toDocument.depth ≤ document.depth := by
  induction depth generalizing document decl with
  | zero => cases h
  | succ depth ih => exact depth_toDocument_readNode (fun _ _ hread => ih hread) h

theorem ofDocument?_toDocument (rules : FormatRules) (decl : NodeDecl) :
    ofDocument? rules decl.toDocument = some decl :=
  read_toDocument rules (Nat.le_refl _)

/-- Writing keeps to the limit on nesting where reading did. -/
theorem read_compact_toDocument {document : Document} {decl : NodeDecl}
    (hlimit : document.depth ≤ Json.maxNesting) (h : ofDocument? .json document = some decl) :
    Json.read (Json.compact decl.toDocument).toList = some decl.toDocument :=
  Json.read_compact decl.isPlain_toDocument (Nat.le_trans (depth_toDocument_le h) hlimit)

end NodeDecl

namespace GrammarFile

/-- The limit is a number of 64 bits, and the rules stand in the order of their names. -/
structure IsWellFormed (file : GrammarFile) : Prop where
  maxDepth_lt : file.maxDepth < UInt64.size
  isSorted : file.rules.IsSorted

theorem isPlain_toDocument {file : GrammarFile} (h : file.IsWellFormed) :
    file.toDocument.IsPlain := by
  have hlow : Int64.minValue.toInt ≤ 0 := by decide
  have hdepth : (Document.integer file.maxDepth).IsPlain :=
    .integer ⟨Int.le_trans hlow (Int.natCast_nonneg _), Int.ofNat_lt.mpr h.maxDepth_lt⟩
  have hrules : ∀ member ∈ file.rules.map writeRule, member.2.IsPlain := by
    intro member hmember
    obtain ⟨rule, _, rfl⟩ := List.mem_map.mp hmember
    exact rule.2.isPlain_toDocument
  rw [toDocument]
  generalize (file.rules.map writeRule) = written at hrules ⊢
  cases file.start <;> simpa [hdepth] using hrules

theorem readRules_map (rules : FormatRules) {decls : NameMap NodeDecl} (h : decls.IsSorted) :
    readRules rules (some (.object (decls.map writeRule))) = some decls := by
  have hdecls : (decls.map writeRule).mapM (readRule rules) = some decls := by
    rw [mapM_eq_some_iff, List.map_map]
    apply List.map_congr_left
    intro rule _
    simp [readRule, writeRule, NodeDecl.ofDocument?_toDocument]
  rw [readRules, hdecls, Option.bind_eq_bind, Option.bind_some, h.ofList_eq]
  rfl

theorem readOptions_maxDepth (rules : FormatRules) {depth : Nat} (h : depth < UInt64.size) :
    readOptions rules (some (.object [("max_depth", .integer depth)])) = some depth := by
  have hcount : (Document.integer depth).count? = some depth := by
    rw [Document.count?, if_pos ⟨Int.natCast_nonneg depth, Int.ofNat_lt.mpr h⟩, Int.toNat_natCast]
  simp [readOptions, Document.fields, Document.member?, tolerant, hcount]

theorem ofDocument?_toDocument (rules : FormatRules) {file : GrammarFile}
    (h : file.IsWellFormed) : ofDocument? rules file.toDocument = some file := by
  obtain ⟨start, maxDepth, decls⟩ := file
  have hoptions := readOptions_maxDepth rules h.maxDepth_lt
  have hrules := readRules_map rules h.isSorted
  cases start <;>
    simp [ofDocument?, toDocument, Document.fields, Document.member?, tolerant, readStart, hoptions,
      hrules]

theorem ofDocument?_eq_some {rules : FormatRules} {document : Document} {file : GrammarFile}
    (h : ofDocument? rules document = some file) :
    ∃ start options decls,
      document.fields (tolerant rules) ["start", "options", "rules"] =
        some [start, options, decls] ∧
      readStart start = some file.start ∧ readOptions rules options = some file.maxDepth ∧
      readRules rules decls = some file.rules := by
  unfold ofDocument? at h
  split at h
  · next start options decls hfields =>
    obtain ⟨name, hstart, h⟩ := Option.bind_eq_some_iff.mp h
    obtain ⟨depth, hoptions, h⟩ := Option.bind_eq_some_iff.mp h
    obtain ⟨map, hrules, ⟨⟩⟩ := Option.bind_eq_some_iff.mp h
    exact ⟨start, options, decls, hfields, hstart, hoptions, hrules⟩
  · cases h

theorem maxDepth_lt_of_readOptions {rules : FormatRules} {options : Option Document} {depth : Nat}
    (h : readOptions rules options = some depth) : depth < UInt64.size := by
  have hdefault : defaultMaxDepth < UInt64.size := by decide
  unfold readOptions at h
  split at h
  · cases h
    exact hdefault
  · cases h
    exact hdefault
  · split at h
    · cases h
      exact hdefault
    · next document _ =>
      cases document with
      | integer value =>
        rw [Document.count?] at h
        split at h
        · next hrange =>
          cases h
          exact (Int.toNat_lt hrange.1).mpr hrange.2
        · cases h
      | _ => cases h
    · cases h

theorem readRules_eq_some {rules : FormatRules} {document : Option Document}
    {decls : NameMap NodeDecl} (h : readRules rules document = some decls) :
    decls.IsSorted ∧ ∀ entry ∈ decls, ∃ members written, document = some (.object members) ∧
      (entry.1, written) ∈ members ∧ NodeDecl.ofDocument? rules written = some entry.2 := by
  unfold readRules at h
  split at h
  · cases h
    exact ⟨.nil, nofun⟩
  · next members =>
    obtain ⟨read, hread, ⟨⟩⟩ := Option.bind_eq_some_iff.mp h
    refine ⟨NameMap.isSorted_ofList read, fun entry hentry => ?_⟩
    obtain ⟨⟨name, written⟩, hmem, hwritten⟩ :=
      exists_mem_of_mapM hread (NameMap.mem_of_mem_ofList hentry)
    obtain ⟨decl, hdecl, ⟨⟩⟩ := Option.bind_eq_some_iff.mp hwritten
    exact ⟨members, written, rfl, hmem, hdecl⟩
  · cases h

theorem isWellFormed_of_ofDocument? {rules : FormatRules} {document : Document}
    {file : GrammarFile} (h : ofDocument? rules document = some file) : file.IsWellFormed := by
  obtain ⟨_, _, _, _, _, hoptions, hrules⟩ := ofDocument?_eq_some h
  exact ⟨maxDepth_lt_of_readOptions hoptions, (readRules_eq_some hrules).1⟩

/-- Options are written also where none were given. -/
theorem depth_toDocument_le {rules : FormatRules} {document : Document} {file : GrammarFile}
    (h : ofDocument? rules document = some file) :
    file.toDocument.depth ≤ max document.depth 2 := by
  obtain ⟨start, options, decls, hfields, _, _, hrules⟩ := ofDocument?_eq_some h
  have hdecls : Document.membersDepth (file.rules.map writeRule) ≤ max document.depth 2 - 2 := by
    rw [Document.membersDepth_le_iff]
    intro member hmember
    obtain ⟨rule, hrule, rfl⟩ := List.mem_map.mp hmember
    obtain ⟨members, written, rfl, hmem, hread⟩ := (readRules_eq_some hrules).2 rule hrule
    have houter := Document.depth_lt_of_fields hfields (List.mem_of_getElem? (i := 2) rfl)
    have hinner : written.depth ≤ Document.membersDepth members :=
      Document.membersDepth_le_iff.mp (Nat.le_refl _) _ hmem
    have hdepth : (writeRule rule).2.depth ≤ written.depth := NodeDecl.depth_toDocument_le hread
    rw [Document.depth] at houter
    omega
  rw [toDocument]
  generalize (file.rules.map writeRule) = written at hdecls ⊢
  cases file.start <;>
    simp only [Option.map_none, Option.map_some, Option.toList_none, Option.toList_some,
      List.nil_append, List.cons_append, Document.membersDepth, Document.depth] <;>
    omega

theorem readJson_compact_toDocument {document : Document} {file : GrammarFile}
    (hlimit : document.depth ≤ Json.maxNesting) (h : ofDocument? .json document = some file) :
    readJson (Json.compact file.toDocument).toList = some file := by
  have hwellFormed := isWellFormed_of_ofDocument? h
  have hdepth : file.toDocument.depth ≤ Json.maxNesting :=
    calc file.toDocument.depth
      _ ≤ max document.depth 2 := depth_toDocument_le h
      _ ≤ Json.maxNesting := Nat.max_le.mpr ⟨hlimit, by decide⟩
  rw [readJson, Json.read_compact (isPlain_toDocument hwellFormed) hdepth]
  exact ofDocument?_toDocument .json hwellFormed

/-- Declarations and files are read back from what is written for them. Writing does not nest deeper
than the spelling that was read, apart from the options of a file, so what was read within the limit
on nesting is written as a text that can be read. Texts give nothing beyond the limit. -/
theorem writing_keeps_grammars :
    (∀ decl : NodeDecl, NodeDecl.ofDocument? .json decl.toDocument = some decl) ∧
    (∀ file : GrammarFile, file.IsWellFormed → ofDocument? .json file.toDocument = some file) ∧
    (∀ document decl, NodeDecl.ofDocument? .json document = some decl →
      decl.toDocument.depth ≤ document.depth) ∧
    (∀ document file, ofDocument? .json document = some file →
      file.IsWellFormed ∧ file.toDocument.depth ≤ max document.depth 2) ∧
    (∀ document decl, document.depth ≤ Json.maxNesting →
      NodeDecl.ofDocument? .json document = some decl →
      Json.read (Json.compact decl.toDocument).toList = some decl.toDocument) ∧
    (∀ document file, document.depth ≤ Json.maxNesting → ofDocument? .json document = some file →
      readJson (Json.compact file.toDocument).toList = some file) ∧
    ∀ text document, Json.read text = some document → document.depth ≤ Json.maxNesting := by
  refine ⟨NodeDecl.ofDocument?_toDocument .json, ?_, ?_, ?_, ?_, ?_, ?_⟩
  · intro file h
    exact ofDocument?_toDocument .json h
  · intro document decl h
    exact NodeDecl.depth_toDocument_le h
  · intro document file h
    exact ⟨isWellFormed_of_ofDocument? h, depth_toDocument_le h⟩
  · intro document decl hlimit h
    exact NodeDecl.read_compact_toDocument hlimit h
  · intro document file hlimit h
    exact readJson_compact_toDocument hlimit h
  · intro text document h
    exact Json.depth_of_read h

theorem writing_keeps_grammars_array :
    let decl : NodeDecl := .list (.rule "l") none
    let written : Document := .object [("list", .array [.object [("rule", .string "l")]])]
    let document : Document := .object [("rules", .object [("l", written)])]
    let file : GrammarFile := ⟨none, defaultMaxDepth, [("l", decl)]⟩
    NodeDecl.ofDocument? .json written = some decl ∧ decl.toDocument.depth ≤ written.depth ∧
      ofDocument? .json document = some file ∧ file.toDocument.depth ≤ max document.depth 2 ∧
      ofDocument? .json file.toDocument = some file ∧
      readJson (Json.compact document).toList = some file ∧
      readJson (Json.compact file.toDocument).toList = some file := by
  intro decl written document file
  have hdecl : NodeDecl.ofDocument? .json written = some decl := by rfl
  have hfile : ofDocument? .json document = some file := by rfl
  have hread : Json.read (Json.compact document).toList = some document :=
    Json.read_compact (by simp [document, written]) (by decide)
  obtain ⟨_, hback, hdepth, hfileDepth, _, htext, hlimit⟩ := writing_keeps_grammars
  obtain ⟨hwellFormed, hle⟩ := hfileDepth document file hfile
  refine ⟨hdecl, hdepth written decl hdecl, hfile, hle, hback file hwellFormed, ?_, ?_⟩
  · rw [readJson, hread, Option.bind_some, hfile]
  · exact htext document file (hlimit _ document hread) hfile

end GrammarFile

end TextGrammar

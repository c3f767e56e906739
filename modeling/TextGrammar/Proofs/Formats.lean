import TextGrammar.Proofs.ReadingBack
/-!
# Formats

The formats differ in what they make of names and items that no field is there for. Where the
contents of a grammar file have none of these, its reading does not depend on the format.
-/
namespace TextGrammar

namespace Document

/-- An object holds known names only, and an array no more items than there are fields. -/
def hasOnlyFields (names : List String) : Document → Bool
  | .object members => members.all fun member => names.contains member.1
  | .array items => items.length ≤ names.length
  | _ => true

theorem fields_of_hasOnlyFields {names : List String} {document : Document}
    (h : document.hasOnlyFields names = true) (rules rules' : FormatRules) :
    document.fields rules names = document.fields rules' names := by
  cases document with
  | object members =>
    have hknown : (members.any fun member => !names.contains member.1) = false := by
      simpa [hasOnlyFields] using h
    simp only [fields, hknown, Bool.false_and, Bool.false_eq_true, ↓reduceIte]
  | array items =>
    have hlength : items.length ≤ names.length := by simpa [hasOnlyFields] using h
    simp [fields, Nat.not_lt.mpr hlength]
  | _ => rfl

def field? (names : List String) (index : Nat) (document : Document) : Option Document :=
  ((document.fields ⟨true, true⟩ names).bind fun values => values[index]?).join

theorem mem_field?_of_fields {rules : FormatRules} {names : List String} {document value : Document}
    {values : List (Option Document)} {index : Nat}
    (h : document.fields rules names = some values) (hvalue : values[index]? = some (some value)) :
    value ∈ (document.field? names index).toList := by
  have hskipping : document.fields ⟨true, true⟩ names = some values := by
    cases document with
    | object | array =>
      simp only [fields] at h ⊢
      split at h
      · cases h
      · simpa using h
    | _ => cases h
  rw [field?, hskipping, Option.bind_some, hvalue, Option.join_some]
  exact List.mem_singleton_self value

def partDocuments : Document → List Document
  | .object [(kind, content)] =>
    match kind with
    | "sequence" | "collect" | "alternation" => content.array?.getD []
    | "ignore" | "optional" | "some" | "many" => [content]
    | "attribute" => (content.field? ["name", "part"] 1).toList
    | "repeat" => (content.field? ["part", "allow_zero"] 0).toList
    | "list" =>
      (content.field? ["item", "separator"] 0).toList
        ++ (content.field? ["item", "separator"] 1).toList
    | _ => []
  | _ => []

def contentFits : Document → Bool
  | .object [("attribute", content)] => content.hasOnlyFields ["name", "part"]
  | .object [("repeat", content)] => content.hasOnlyFields ["part", "allow_zero"]
  | .object [("list", content)] => content.hasOnlyFields ["item", "separator"]
  | _ => true

def contentsFit : (depth : Nat) → Document → Bool
  | 0, _ => true
  | depth + 1, document => document.contentFits && document.partDocuments.all (contentsFit depth)

end Document

namespace NodeDecl

theorem readNode_of_contentFits {document : Document} (h : document.contentFits = true)
    (rules rules' : FormatRules) (readPart : Document → Option NodeDecl) :
    readNode rules readPart document = readNode rules' readPart document := by
  unfold readNode
  split
  · dsimp only
    split
    case h_10 | h_11 | h_12 => rw [Document.fields_of_hasOnlyFields h rules rules']
    all_goals rfl
  · rfl

theorem readNode_congr {document : Document} {readPart readPart' : Document → Option NodeDecl}
    (h : ∀ part ∈ document.partDocuments, readPart part = readPart' part) (rules : FormatRules) :
    readNode rules readPart document = readNode rules readPart' document := by
  unfold readNode
  split
  · next kind content =>
    dsimp only
    split
    case h_3 | h_4 | h_5 =>
      cases content with
      | array items =>
        have hitems : items.mapM readPart = items.mapM readPart' := mapM_congr h
        simp only [Document.array?, Option.bind_some, hitems]
      | _ => rfl
    case h_6 | h_7 | h_8 | h_9 => rw [h content (List.mem_singleton_self content)]
    case h_10 =>
      split
      · next name part hfields =>
        rw [h part (Document.mem_field?_of_fields hfields rfl)]
      · rfl
    case h_11 =>
      split
      · next part hfields =>
        rw [h part (Document.mem_field?_of_fields hfields rfl)]
      · next part allowZero hfields =>
        rw [h part (Document.mem_field?_of_fields hfields rfl)]
      · rfl
    case h_12 =>
      split
      · next item hfields =>
        rw [h item (List.mem_append_left _ (Document.mem_field?_of_fields hfields rfl))]
      · next item hfields =>
        rw [h item (List.mem_append_left _ (Document.mem_field?_of_fields hfields rfl))]
      · next item separator _ hfields =>
        rw [h item (List.mem_append_left _ (Document.mem_field?_of_fields hfields rfl)),
          h separator (List.mem_append_right _ (Document.mem_field?_of_fields hfields rfl))]
      · rfl
    all_goals rfl
  · rfl

theorem read_of_contentsFit {depth : Nat} {document : Document}
    (h : document.contentsFit depth = true) (rules rules' : FormatRules) :
    read rules depth document = read rules' depth document := by
  induction depth generalizing document with
  | zero => rfl
  | succ depth ih =>
    obtain ⟨hcontent, hparts⟩ := Bool.and_eq_true_iff.mp h
    rw [read, read, readNode_of_contentFits hcontent rules rules']
    apply readNode_congr
    intro part hpart
    exact ih (List.all_eq_true.mp hparts part hpart)

end NodeDecl

namespace GrammarFile

/-- In a file, options written as an array have at most one item, and the contents of all rules
fit. A rule may be named like a kind of declarations. -/
def contentsFit (members : List (String × Document)) : Bool :=
  members.all fun (name, document) =>
    match name, document with
    | "options", .array items => items.length ≤ 1
    | "rules", .object decls => decls.all fun decl => decl.2.contentsFit decl.2.depth
    | _, _ => true

theorem fields_tolerant (rules : FormatRules) (names : List String)
    (members : List (String × Document)) :
    (Document.object members).fields (tolerant rules) names =
      names.mapM (Document.member? members) := by
  simp [Document.fields, tolerant]

theorem readOptions_of_fits {document : Document}
    (h : ∀ items, document = .array items → items.length ≤ 1) (rules rules' : FormatRules) :
    readOptions rules (some document) = readOptions rules' (some document) := by
  cases document with
  | array items =>
    have hfit : (Document.array items).hasOnlyFields ["max_depth"] = true :=
      decide_eq_true (h items rfl)
    simp only [readOptions,
      Document.fields_of_hasOnlyFields hfit (tolerant rules) (tolerant rules')]
  | _ => rfl

theorem readRules_of_fits {decls : List (String × Document)}
    (h : ∀ decl ∈ decls, decl.2.contentsFit decl.2.depth = true) (rules rules' : FormatRules) :
    readRules rules (some (.object decls)) = readRules rules' (some (.object decls)) := by
  have hread : ∀ name document, (name, document) ∈ decls →
      NodeDecl.ofDocument? rules document = NodeDecl.ofDocument? rules' document :=
    fun name document hmem => NodeDecl.read_of_contentsFit (h (name, document) hmem) rules rules'
  simp only [readRules]
  congr 1
  apply mapM_congr
  rintro ⟨name, document⟩ hmem
  rw [readRule, readRule, hread name document hmem]

theorem ofDocument?_of_contentsFit {members : List (String × Document)}
    (h : contentsFit members = true) (rules rules' : FormatRules) :
    ofDocument? rules (.object members) = ofDocument? rules' (.object members) := by
  have hfits := List.all_eq_true.mp h
  simp only [ofDocument?, fields_tolerant]
  split
  · next start options decls hvalues =>
    simp only [mapM_eq_some_iff, List.map_cons, List.cons.injEq] at hvalues
    obtain ⟨_, hoptions, hdecls, _⟩ := hvalues
    have hsameOptions : readOptions rules options = readOptions rules' options := by
      cases options with
      | none => rfl
      | some document =>
        apply readOptions_of_fits
        rintro items rfl
        exact of_decide_eq_true (hfits _ (Document.mem_of_member? hoptions))
    have hsameRules : readRules rules decls = readRules rules' decls := by
      cases decls with
      | none => rfl
      | some document =>
        cases document with
        | object decls =>
          have hall := hfits _ (Document.mem_of_member? hdecls)
          exact readRules_of_fits (List.all_eq_true.mp hall) rules rules'
        | _ => rfl
    rw [hsameOptions, hsameRules]
  · rfl

/-- Grammars mean the same in both formats. A file whose contents have nothing beyond their fields
is refused in both, or it is read as the same file in both and so gives the same rule set or the
same error. Texts of the two formats that stand for such a file are read alike. -/
theorem formats_agree [Engine] (members : List (String × Document))
    (h : contentsFit members = true) :
    ofDocument? .toml (.object members) = ofDocument? .json (.object members) ∧
    (ofDocument? .toml (.object members)).map toRuleSet =
      (ofDocument? .json (.object members)).map toRuleSet ∧
    ∀ toml json : List Char, Toml.read toml = some (.object members) →
      Json.read json = some (.object members) → readToml toml = readJson json := by
  have hsame := ofDocument?_of_contentsFit h .toml .json
  refine ⟨hsame, by rw [hsame], ?_⟩
  intro toml json htoml hjson
  rw [readToml, readJson, htoml, hjson, Option.bind_some, Option.bind_some, hsame]

/-- A rule named `list` is no list. -/
theorem formats_agree_list :
    let letters : Document :=
      .object [("repeat", .array [.object [("terminal", .string "a")], .bool true])]
    let members : List (String × Document) :=
      [("rules", .object
          [("list", .object [("attribute", .object [("part", letters), ("name", .string "x")])]),
            ("pair", .object [("list", .array [.object [("rule", .string "list")]])])]),
        ("note", .array []), ("options", .array [.integer 3])]
    let file : GrammarFile :=
      ⟨none, 3, [("list", .attribute "x" (.repetition (.terminal "a") true)),
        ("pair", .list (.rule "list") none)]⟩
    contentsFit members = true ∧ ofDocument? .json (.object members) = some file ∧
      ofDocument? .toml (.object members) = some file := by
  intro letters members file
  have hfits : contentsFit members = true := by decide
  have hjson : ofDocument? .json (.object members) = some file := by rfl
  exact ⟨hfits, hjson, (formats_agree members hfits).1.trans hjson⟩

end GrammarFile

end TextGrammar

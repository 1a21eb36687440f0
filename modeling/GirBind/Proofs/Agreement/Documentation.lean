import GirBind.Compile
import GirBind.Proofs.Agreement.Table

namespace GirBind

open Attempt (Finds)

def MemberDecision.mapDoc (f : Doc.Converted → Doc.Converted) (d : MemberDecision) :
    MemberDecision :=
  { d with doc := d.doc.map f }

def EnumMemberDecision.mapDoc (f : Doc.Converted → Doc.Converted) (d : EnumMemberDecision) :
    EnumMemberDecision :=
  { d with doc := d.doc.map f }

def EnumerationDecision.mapDocs (f : Doc.Converted → Doc.Converted) (d : EnumerationDecision) :
    EnumerationDecision :=
  { d with members := d.members.map (·.mapDoc f) }

def ConstantDecision.mapDoc (f : Doc.Converted → Doc.Converted) (d : ConstantDecision) :
    ConstantDecision :=
  { d with doc := d.doc.map f }

def TypeDecision.mapDocs (f : Doc.Converted → Doc.Converted) (d : TypeDecision) : TypeDecision :=
  { d with
    enumeration := d.enumeration.map (·.mapDocs f)
    callback := d.callback.map (·.mapDoc f)
    members := d.members.map (·.mapDoc f)
    doc := d.doc.map f }

def NamespaceDecision.mapDocs (f : Doc.Converted → Doc.Converted) (d : NamespaceDecision) :
    NamespaceDecision :=
  { d with
    types := d.types.map (·.mapDocs f)
    functions := d.functions.map (·.mapDoc f)
    constants := d.constants.map (·.mapDoc f) }

theorem MemberDecision.mapDoc_id (d : MemberDecision) : d.mapDoc id = d := by
  simp only [mapDoc, Option.map_id_fun, id]

theorem EnumMemberDecision.mapDoc_id (d : EnumMemberDecision) : d.mapDoc id = d := by
  simp only [mapDoc, Option.map_id_fun, id]

theorem EnumerationDecision.mapDocs_id (d : EnumerationDecision) : d.mapDocs id = d := by
  simp only [mapDocs, EnumMemberDecision.mapDoc_id, List.map_id_fun', id]

theorem ConstantDecision.mapDoc_id (d : ConstantDecision) : d.mapDoc id = d := by
  simp only [mapDoc, Option.map_id_fun, id]

theorem TypeDecision.mapDocs_id (d : TypeDecision) : d.mapDocs id = d := by
  simp only [mapDocs, EnumerationDecision.mapDocs_id, MemberDecision.mapDoc_id, List.map_id_fun',
    Option.map_id_fun', Option.map_id_fun, id]

theorem NamespaceDecision.mapDocs_id (d : NamespaceDecision) : d.mapDocs id = d := by
  simp only [mapDocs, TypeDecision.mapDocs_id, MemberDecision.mapDoc_id, ConstantDecision.mapDoc_id,
    List.map_id_fun', id]

namespace Doc

/-- Forgets what a comment says, and the references in it that led nowhere. -/
def Converted.blank (_ : Converted) : Converted := .ofText ""

namespace Context

/-- Comments agree in two settings after a change that hides where they may differ. -/
structure Agrees (f : Converted → Converted) (ctx ctx' : Context) : Prop where
  callableComment : ∀ c use,
    (ctx.callableComment c use).map f = (ctx'.callableComment c use).map f
  nodeComment : ∀ n, (ctx.nodeComment n).map f = (ctx'.nodeComment n).map f
  typeComment : ∀ t, (ctx.typeComment t).map f = (ctx'.typeComment t).map f

theorem agrees_blank (ctx ctx' : Context) : ctx.Agrees .blank ctx' where
  callableComment _ _ := by
    simp only [Context.callableComment, Option.map_map, Function.comp_def, Converted.blank]
  nodeComment _ := by
    simp only [Context.nodeComment, Option.map_map, Function.comp_def, Converted.blank]
  typeComment _ := by
    simp only [Context.typeComment, Option.map_map, Function.comp_def, Converted.blank]

theorem agrees_of_convert {ctx ctx' : Context} (h : convert ctx = convert ctx') :
    ctx.Agrees id ctx' := by
  have hentry : ctx.entry = ctx'.entry := by
    funext tag doc
    rw [entry, entry, h]
  constructor
  · intro c use
    simp only [Context.callableComment, parameterEntries, returnEntry, deprecatedEntry, hentry]
  · intro n
    simp only [Context.nodeComment, hentry]
  · intro t
    simp only [Context.typeComment, hentry]

end Context
end Doc

def Symbol.sketch (y : Symbol) : Symbol := { y with node := y.node.sketch }

theorem Symbol.kind_congr {y y' : Symbol} (h : y.sketch = y'.sketch) :
    y.node.kind = y'.node.kind := by
  rw [← Node.hides_sketch.memberKind y.node, ← Node.hides_sketch.memberKind y'.node]
  exact congrArg (·.node.kind) h

namespace SymbolTable

/-- Two tables have the same namespaces and lead native names to the same declarations, up to what
is read of them. -/
structure AgreesFully (table table' : SymbolTable) : Prop extends table.Agrees False table' where
  symbol? : ∀ identifier, Finds False (fun y y' : Symbol => y.sketch = y'.sketch)
    (table.symbol? identifier) (table'.symbol? identifier)
  nativeType? : ∀ name, Finds False (fun e e' : TypeEntry => e.sketch = e'.sketch)
    (table.nativeType? name) (table'.nativeType? name)

end SymbolTable

namespace Doc.Context

variable {table table' : SymbolTable} (h : table.AgreesFully table') (library : String)

include h

theorem qualifier_congr (other : String) :
    qualifier ⟨table, library⟩ other = qualifier ⟨table', library⟩ other := by
  rw [qualifier, qualifier, h.package]

theorem typeLink?_congr (other : Option String) (name : String) :
    typeLink? ⟨table, library⟩ other name = typeLink? ⟨table', library⟩ other name := by
  refine ((h.lookup? library _).mono And.left fun e e' he => ?_).map_eq
  obtain ⟨hlibrary, hname⟩ := TypeEntry.name_congr he
  rw [qualifier_congr h, hlibrary, hname]

theorem symbolLink_congr {y y' : Symbol} (hy : y.sketch = y'.sketch) (isConstant : Bool) :
    symbolLink ⟨table, library⟩ y isConstant = symbolLink ⟨table', library⟩ y' isConstant := by
  have hlibrary : y.library = y'.library :=
    (congrArg (·.library) hy : y.sketch.library = y'.sketch.library)
  have howner : y.owner = y'.owner :=
    (congrArg (·.owner) hy : y.sketch.owner = y'.sketch.owner)
  have hname : y.name = y'.name := (congrArg (·.name) hy : y.sketch.name = y'.sketch.name)
  rw [symbolLink, symbolLink, qualifier_congr h, hlibrary, howner, hname]

theorem functionLink?_congr (path : LinkPath) :
    functionLink? ⟨table, library⟩ path = functionLink? ⟨table', library⟩ path := by
  unfold functionLink?
  split
  case h_1 => rw [typeLink?_congr h]
  case h_2 _ _ _ other function _ _ _ =>
    have hns := h.finds other
    dsimp only
    revert hns
    generalize table.namespace? other = x
    generalize table'.namespace? other = y
    intro hns
    cases hns with
    | missed => rw [Option.filter_none, Option.map_none, Option.map_none]
    | recovered hr => exact hr.elim
    | @found ns ns' hns =>
      have hname : ns.sketch.name = ns'.sketch.name := congrArg (·.name) hns
      change ns.name = ns'.name at hname
      rw [Option.filter_some, Option.filter_some, ← ns.isSome_function?_sketch, hns,
        ns'.isSome_function?_sketch]
      split
      case isTrue =>
        rw [Option.map_some, Option.map_some, hname, qualifier_congr h]
      case isFalse => rw [Option.map_none, Option.map_none]
  case h_3 => rfl

theorem identifierLink?_congr (path : LinkPath) :
    identifierLink? ⟨table, library⟩ path = identifierLink? ⟨table', library⟩ path := by
  have hsymbol : Finds False (fun y y' : Symbol => y.sketch = y'.sketch)
      (path.part1.bind table.symbol?) (path.part1.bind table'.symbol?) := by
    cases path.part1 with
    | none => exact .missed
    | some name => exact h.symbol? name
  unfold identifierLink?
  dsimp only
  revert hsymbol
  generalize path.part1.bind table.symbol? = x
  generalize path.part1.bind table'.symbol? = y
  intro hsymbol
  cases hsymbol with
  | missed => exact (Option.bind_none _).trans (Option.bind_none _).symm
  | recovered hr => exact hr.elim
  | found hy =>
    refine congrArg some ?_
    rw [symbolLink_congr h library hy, Symbol.kind_congr hy]

theorem link_congr (kind : String) (path : LinkPath) :
    link ⟨table, library⟩ kind path = link ⟨table', library⟩ kind path := by
  have hmethod : methodLink? ⟨table, library⟩ path = methodLink? ⟨table', library⟩ path := by
    simp only [methodLink?, typeLink?_congr h]
  have hconstructor :
      constructorLink? ⟨table, library⟩ path = constructorLink? ⟨table', library⟩ path := by
    simp only [constructorLink?, typeLink?_congr h]
  have hclass : classLink? ⟨table, library⟩ path = classLink? ⟨table', library⟩ path := by
    simp only [classLink?, typeLink?_congr h]
  unfold link
  rw [hmethod, hconstructor, hclass, functionLink?_congr h, identifierLink?_congr h]

theorem identifier_congr (name : String) :
    identifier ⟨table, library⟩ name = identifier ⟨table', library⟩ name := by
  have hlink : (table.symbol? name).map (fun y => inlineLink (symbolLink ⟨table, library⟩ y true)) =
      (table'.symbol? name).map fun y => inlineLink (symbolLink ⟨table', library⟩ y true) :=
    ((h.symbol? name).mono id fun y y' hy => by rw [symbolLink_congr h library hy]).map_eq
  unfold identifier
  rw [hlink]

theorem nativeType_congr (name : String) :
    nativeType ⟨table, library⟩ name = nativeType ⟨table', library⟩ name := by
  refine congrArg (orMiss name)
    (((h.nativeType? name).mono id fun e e' he => ?_).map_eq)
  obtain ⟨hlibrary, hname⟩ := TypeEntry.name_congr he
  rw [qualifier_congr h, hlibrary, hname]

end Doc.Context

namespace Doc

variable {table table' : SymbolTable} (h : table.AgreesFully table') (library : String)

include h

theorem Item.render_congr (state : ListState) (i : Item) :
    i.render ⟨table, library⟩ state = i.render ⟨table', library⟩ state := by
  cases i with
  | link kind path => exact Context.link_congr h library kind path
  | identifier name => exact Context.identifier_congr h library name
  | nativeType name => exact Context.nativeType_congr h library name
  | _ => rfl

theorem renderSegments_congr (segments : List Segment) (state : ListState) :
    renderSegments ⟨table, library⟩ state segments =
      renderSegments ⟨table', library⟩ state segments := by
  induction segments generalizing state with
  | nil => rfl
  | cons s rest ih =>
    cases s with
    | plain c => rw [renderSegments, renderSegments, ih]
    | item i source => rw [renderSegments, renderSegments, ih, Item.render_congr h]

theorem Context.agrees_of_agreesFully : Context.Agrees id ⟨table, library⟩ ⟨table', library⟩ := by
  apply Context.agrees_of_convert
  funext text
  rw [convert, convert, renderSegments_congr h]

end Doc
end GirBind

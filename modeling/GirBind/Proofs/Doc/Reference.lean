import GirBind.Doc.Render
import Mathlib.Data.List.TakeWhile

namespace GirBind

namespace Doc

inductive Style
  /-- like the class that declares it -/
  | primary
  | callable
  | constant
deriving DecidableEq

def Style.ofKind (kind : NodeKind) : Style :=
  if kind = .member ∨ kind = .constant then constant else callable

inductive Target
  /-- a member of a type, which has its namespace in front or belongs to the current one -/
  | member (type name : String) (style : Style)
  | function (library name : String)
  /-- a native identifier. Without a style the name is written as what it stands for. -/
  | identifier (name : String) (style : Option Style)

/-- A reference to a member or to a function or constant, as far as it says which one. -/
structure Reference where
  text : String
  target : Option Target

namespace LinkPath

def typeName (library : Option String) (type : String) : String :=
  match library with
  | some library => s!"{library}.{type}"
  | none => type

def primary? (path : LinkPath) : Option Target :=
  path.part2.map fun type => .member (typeName path.part1 type) "new" .primary

def member? (path : LinkPath) : Option Target :=
  match path.part1, path.part2, path.part3 with
  | library, some type, some name => some (.member (typeName library type) name .callable)
  | some type, some name, none => some (.member type name .callable)
  | _, _, _ => none

def function? (path : LinkPath) : Option Target :=
  match path.part1, path.part2, path.part3 with
  | some library, some type, some name => some (.member (typeName library type) name .callable)
  | some library, some name, none => some (.function library name)
  | _, _, _ => none

end LinkPath

/-- The reference that an item is, unless it is one to a type or none at all. -/
def Item.reference? : Item → Option Reference
  | .link kind path =>
    match kind with
    | "ctor" => some ⟨path.text, if path.part3 = some "new" then path.primary? else path.member?⟩
    | "method" | "vfunc" => some ⟨path.text, path.member?⟩
    | "func" => some ⟨path.text, path.function?⟩
    | "id" => some ⟨path.text, path.part1.map (.identifier · none)⟩
    | _ => none
  | .identifier name =>
    if name ∈ ["NULL", "TRUE", "FALSE"] then none
    else some ⟨name, some (.identifier name (some .constant))⟩
  | _ => none

structure Spot where
  library : String
  owner : Option String
  name : String
  style : Style

namespace Spot

/-- What no type declares is in the class named after the namespace. -/
def simpleClass (s : Spot) : String := (s.owner.map Java.simpleType).getD s.library

def member (s : Spot) : String :=
  match s.style with
  | .primary => Context.lastComponent s.simpleClass
  | .callable => Java.memberName s.name
  | .constant => Text.upper s.name

end Spot

namespace Context

def className (ctx : Context) (s : Spot) : String := ctx.qualifier s.library ++ s.simpleClass

def spotLink (ctx : Context) (s : Spot) : String := memberLink (ctx.className s) s.member

/-- Where the table has the target of a reference. A member is looked for no further than its
type. -/
def spot? (ctx : Context) : Target → Option Spot
  | .member type name style => (ctx.table.lookup? ctx.library type).map fun e =>
      ⟨e.library, some e.type.name, name, style⟩
  | .function library name =>
    ((ctx.table.namespace? library).filter fun ns => (ns.function? name).isSome).map fun ns =>
      ⟨ns.name, none, name, .callable⟩
  | .identifier name style => (ctx.table.symbol? name).map fun y =>
      ⟨y.library, y.owner, y.name, style.getD (.ofKind y.node.kind)⟩

variable {ctx : Context}

theorem lastComponent_qualified (ctx : Context) (library name : String) :
    lastComponent (ctx.qualifier library ++ name) = lastComponent name := by
  rw [qualifier]
  split
  case isTrue => rw [String.empty_append]
  case isFalse =>
    have hreverse : (s!"{ctx.table.package library}." ++ name).toList.reverse =
        name.toList.reverse ++ '.' :: (ctx.table.package library).toList.reverse := by
      rw [String.toList_append, String.toList_append, List.append_assoc, List.reverse_append,
        List.reverse_append, List.append_assoc]
      rfl
    rw [lastComponent, hreverse, List.takeWhile_append]
    split
    case isTrue hlength =>
      rw [List.takeWhile_cons_of_neg (by decide), List.append_nil, lastComponent,
        (List.takeWhile_prefix _).eq_of_length hlength]
    case isFalse => rfl

theorem lastComponent_of_not_mem {name : String} (h : '.' ∉ name.toList) :
    lastComponent name = name := by
  have hall : ∀ c ∈ name.toList.reverse, (c != '.') = true := by
    intro c hc
    rw [bne_iff_ne]
    rintro rfl
    exact h (List.mem_reverse.1 hc)
  rw [lastComponent, List.takeWhile_eq_self_iff.2 hall, List.reverse_reverse, String.ofList_toList]

theorem typeLink?_eq (library : Option String) (type : String) :
    ctx.typeLink? library type =
      (ctx.table.lookup? ctx.library (LinkPath.typeName library type)).map fun e =>
        ctx.qualifier e.library ++ Java.simpleType e.type.name := by
  cases library with
  | none => rfl
  | some library => rfl

theorem map_typeLink? (library : Option String) (type name : String) :
    (ctx.typeLink? library type).map (memberLink · (Java.memberName name)) =
      (ctx.spot? (.member (LinkPath.typeName library type) name .callable)).map ctx.spotLink := by
  rw [typeLink?_eq, spot?, Option.map_map, Option.map_map]
  rfl

theorem constructorLink?_eq (path : LinkPath) :
    ctx.constructorLink? path = (path.primary?.bind ctx.spot?).map ctx.spotLink := by
  obtain ⟨text, part1, part2, part3⟩ := path
  cases part2 with
  | none => rfl
  | some type =>
    change (ctx.typeLink? part1 type).bind (fun target => some _) =
      (ctx.spot? (.member (LinkPath.typeName part1 type) "new" .primary)).map ctx.spotLink
    rw [typeLink?_eq, spot?, Option.map_map]
    cases ctx.table.lookup? ctx.library (LinkPath.typeName part1 type) with
    | none => rfl
    | some e =>
      change some (memberLink _ (lastComponent (ctx.qualifier _ ++ Java.simpleType _))) = _
      rw [lastComponent_qualified]
      rfl

theorem methodLink?_eq (path : LinkPath) :
    ctx.methodLink? path = (path.member?.bind ctx.spot?).map ctx.spotLink := by
  obtain ⟨text, part1, part2, part3⟩ := path
  cases part2 with
  | none => rfl
  | some name =>
    cases part3 with
    | some method => exact map_typeLink? part1 name method
    | none =>
      cases part1 with
      | none => rfl
      | some type => exact map_typeLink? none type name

theorem functionLink?_eq (path : LinkPath) :
    ctx.functionLink? path = (path.function?.bind ctx.spot?).map ctx.spotLink := by
  obtain ⟨text, part1, part2, part3⟩ := path
  cases part1 with
  | none => rfl
  | some library =>
    cases part2 with
    | none => rfl
    | some name =>
      cases part3 with
      | some function => exact map_typeLink? (some library) name function
      | none =>
        change _ = Option.map _ (Option.map _ _)
        rw [Option.map_map]
        rfl

theorem inlineLink_symbolLink (y : Symbol) (isConstant : Bool) :
    inlineLink (ctx.symbolLink y isConstant) =
      ctx.spotLink ⟨y.library, y.owner, y.name, if isConstant then .constant else .callable⟩ := by
  obtain ⟨library, owner, name, node⟩ := y
  cases owner <;> cases isConstant <;> rfl

theorem identifierLink?_eq (path : LinkPath) :
    ctx.identifierLink? path =
      ((path.part1.map (Target.identifier · none)).bind ctx.spot?).map ctx.spotLink := by
  obtain ⟨text, part1, part2, part3⟩ := path
  cases part1 with
  | none => rfl
  | some name =>
    change (ctx.table.symbol? name).bind _ = Option.map _ (Option.map _ _)
    cases ctx.table.symbol? name with
    | none => rfl
    | some y =>
      refine congrArg some ((inlineLink_symbolLink y _).trans ?_)
      simp only [Bool.or_eq_true, beq_iff_eq]
      rfl

theorem identifier_of_not_mem {name : String} (h : name ∉ ["NULL", "TRUE", "FALSE"]) :
    ctx.identifier name =
      orMiss name ((ctx.spot? (.identifier name (some .constant))).map ctx.spotLink) := by
  simp only [List.mem_cons, List.not_mem_nil, or_false, not_or] at h
  obtain ⟨hnull, htrue, hfalse⟩ := h
  rw [identifier, spot?, Option.map_map]
  · simp only [inlineLink_symbolLink]
    rfl
  · exact hnull
  · exact htrue
  · exact hfalse

end Context

/-- A reference is shown as a link to its spot, and without one as code. -/
theorem Item.render_eq {i : Item} {ref : Reference} (h : i.reference? = some ref) (ctx : Context)
    (state : ListState) :
    i.render ctx state =
      Context.orMiss ref.text ((ref.target.bind ctx.spot?).map ctx.spotLink) := by
  rw [reference?.eq_def] at h
  split at h
  case h_1 kind path =>
    change ctx.link kind path = _
    split at h
    case h_1 =>
      cases h
      change Context.orMiss _ (if _ then _ else _) = _
      split
      case isTrue => rw [ctx.constructorLink?_eq]
      case isFalse => rw [ctx.methodLink?_eq]
    case h_2 | h_3 =>
      cases h
      exact congrArg (Context.orMiss path.text) (ctx.methodLink?_eq path)
    case h_4 =>
      cases h
      exact congrArg (Context.orMiss path.text) (ctx.functionLink?_eq path)
    case h_5 =>
      cases h
      exact congrArg (Context.orMiss path.text) (ctx.identifierLink?_eq path)
    case h_6 => cases h
  case h_2 name =>
    split at h
    case isTrue => cases h
    case isFalse hname =>
      cases h
      exact ctx.identifier_of_not_mem hname
  case h_3 => cases h

end Doc

end GirBind

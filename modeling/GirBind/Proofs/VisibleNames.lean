import GirBind.Proofs.ClassNames
import GirBind.Proofs.JavaName
import GirBind.Proofs.SymbolIndex

namespace GirBind

open Java

namespace TypeDecision

def visibleNames (d : TypeDecision) : List String :=
  (d.members ++ d.callback.toList).map (·.visibleName) ++
    (d.record.map fun r => r.fields.map (·.visibleName)).getD [] ++
    (d.enumeration.map fun e => e.members.map (·.visibleName)).getD []

end TypeDecision

namespace NamespaceDecision

def visibleNames (d : NamespaceDecision) : List String :=
  d.types.flatMap TypeDecision.visibleNames ++ d.functions.map (·.visibleName) ++
    d.constants.map (·.visibleName)

end NamespaceDecision

namespace Callable

theorem visibleName_not_mem_keywords (owner : Option RegisteredType) (form : BindingForm)
    (c : Callable) : c.visibleName owner form ∉ keywords := by
  unfold visibleName
  split
  case isTrue => exact on_append_not_mem (by decide +kernel) _
  case isFalse =>
    split
    case isTrue => decide
    case isFalse =>
      split
      case isTrue =>
        split
        case h_1 t => exact simpleType_not_mem_keywords t.name
        case h_2 => exact (isSafe_memberName c.publicName).not_mem_keywords
      case isFalse =>
        split
        case isTrue => exact (isSafe_interfaceName c.publicName).not_mem_keywords
        case isFalse => exact (isSafe_memberName c.publicName).not_mem_keywords

/-- The form matters, since an interface has no primary constructor with the name of the type. -/
theorem visibleName_not_mem_objectMethods {t : RegisteredType} (ht : t.variant = .interface)
    (c : Callable) :
    c.visibleName (some t) (BindingForm.of (some t) c) ∉ objectMethods := by
  have hform : BindingForm.of (some t) c ≠ .constructor := by
    intro hform
    unfold BindingForm.of at hform
    split at hform
    case h_1 | h_2 | h_3 => cases hform
    case h_4 heq _ _ =>
      cases heq
      rw [if_pos ht] at hform
      cases hform
  have hinterface : isInterface (some t) = true := by
    rw [isInterface, Option.map_some, ht]
    rfl
  unfold visibleName
  rw [if_neg hform, if_pos hinterface]
  split
  case isTrue => exact on_append_not_mem (by decide) _
  case isFalse =>
    split
    case isTrue => decide
    case isFalse => exact escapeObjectMethod_not_mem _

end Callable

namespace BindingContext

variable {ctx : BindingContext} {floating : FloatingTable}

theorem visibleName_of_mem_fieldDecisions {t : RegisteredType} {f : FieldDecision}
    (h : f ∈ ctx.fieldDecisions t) : f.visibleName = memberName f.name := by
  obtain ⟨field, -, hf⟩ := List.mem_filterMap.1 h
  obtain ⟨name, -, hf⟩ := Option.bind_eq_some_iff.1 hf
  split at hf
  case h_1 =>
    cases hf
    rfl
  case h_2 => cases hf

theorem mem_visibleNames_of_bindType {t : RegisteredType} {d : TypeDecision}
    {skipped : List SkippedDeclaration} {name : String}
    (h : ctx.bindType floating t = .ok (d, skipped)) (hname : name ∈ d.visibleNames) :
    (∃ c : Callable, name = c.visibleName (some t) (BindingForm.of (some t) c)) ∨
      t.variant ≠ .interface ∧ ∃ source, name = memberName source ∨ name = constantName source := by
  obtain ⟨parent, implements, aliasType, callback, -, -, -, hcallback, rfl, -⟩ :=
    bindType_eq_ok_iff.1 h
  rcases List.mem_append.1 hname with hname | hname
  · rcases List.mem_append.1 hname with hname | hname
    · left
      obtain ⟨m, hm, rfl⟩ := List.mem_map.1 hname
      rcases List.mem_append.1 hm with hm | hm
      · obtain ⟨n, -, c, -, hbound⟩ := mem_memberAttempts.1 hm
        obtain ⟨sig, -, rfl⟩ := bindCallable_eq_ok_iff.1 hbound
        exact ⟨c, rfl⟩
      · obtain rfl : callback = some m := Option.mem_toList.1 hm
        obtain ⟨-, c, -, hbound⟩ := callbackPart_eq_ok hcallback
        obtain ⟨sig, -, rfl⟩ := bindCallable_eq_ok_iff.1 hbound
        exact ⟨c, rfl⟩
    · right
      dsimp only [typeDecision] at hname
      split at hname
      case isTrue hvariant =>
        obtain ⟨f, hf, rfl⟩ := List.mem_map.1 hname
        refine ⟨fun hinterface => ?_, f.name, .inl (visibleName_of_mem_fieldDecisions hf)⟩
        rw [hinterface] at hvariant
        rcases hvariant with hvariant | hvariant
        · cases hvariant
        · cases hvariant
      case isFalse => cases hname
  · right
    dsimp only [typeDecision] at hname
    split at hname
    case isTrue hvariant =>
      obtain ⟨m, hm, rfl⟩ := List.mem_map.1 hname
      obtain ⟨n, -, rfl⟩ := List.mem_map.1 hm
      dsimp only [enumMemberDecision]
      refine ⟨fun hinterface => ?_, n.name, .inr rfl⟩
      cases hinterface.symm.trans hvariant
    case isFalse => cases hname

theorem visibleNames_not_mem_keywords {name : String}
    (h : name ∈ (ctx.bindNamespace floating).visibleNames) : name ∉ keywords := by
  rcases List.mem_append.1 h with h | h
  · rcases List.mem_append.1 h with h | h
    · obtain ⟨d, hd, hname⟩ := List.mem_flatMap.1 h
      obtain ⟨t, -, skipped, hbind⟩ := mem_types.1 hd
      rcases mem_visibleNames_of_bindType hbind hname with ⟨c, rfl⟩ | ⟨-, source, rfl | rfl⟩
      · exact c.visibleName_not_mem_keywords _ _
      · exact (isSafe_memberName source).not_mem_keywords
      · exact constantName_not_mem_keywords source
    · obtain ⟨m, hm, rfl⟩ := List.mem_map.1 h
      obtain ⟨n, -, c, -, hbound⟩ := mem_functions.1 hm
      obtain ⟨sig, -, rfl⟩ := bindCallable_eq_ok_iff.1 hbound
      exact c.visibleName_not_mem_keywords _ _
  · obtain ⟨d, hd, rfl⟩ := List.mem_map.1 h
    obtain ⟨n, -, hbound⟩ := mem_constants.1 hd
    obtain ⟨javaType, value, rfl⟩ := exists_of_bindConstant hbound
    dsimp only
    exact constantName_not_mem_keywords n.name

theorem visibleNames_not_mem_objectMethods {d : TypeDecision} {name : String}
    (hd : d ∈ (ctx.bindNamespace floating).types) (hvariant : d.variant = .interface)
    (hname : name ∈ d.visibleNames) : name ∉ objectMethods := by
  obtain ⟨t, -, skipped, hbind⟩ := mem_types.1 hd
  have ht : t.variant = .interface := by
    obtain ⟨_, _, _, _, -, -, -, -, rfl, -⟩ := bindType_eq_ok_iff.1 hbind
    exact hvariant
  rcases mem_visibleNames_of_bindType hbind hname with ⟨c, rfl⟩ | ⟨hne, -⟩
  · exact Callable.visibleName_not_mem_objectMethods ht c
  · exact absurd ht hne

end BindingContext

/-- Names adapted to Java stay as they are when they are adapted again, those of an interface too.
They are not reserved in any case, their only sign is at most one underscore behind them, and those
of an interface are not methods of every object. So no run decides on a reserved name, or on a
method of every object for an interface. -/
theorem visibleNames_of_compileSources :
    (∀ name, memberName (memberName name) = memberName name ∧
      IsSafe (camelCase false name) (memberName name)) ∧
    (∀ name, interfaceName (interfaceName name) = interfaceName name ∧
      IsSafe (camelCase false name) (interfaceName name) ∧ interfaceName name ∉ objectMethods) ∧
    ∀ o sources ds stats, compileSources o sources = .ok (ds, stats) → ∀ d ∈ ds,
      (∀ name ∈ d.visibleNames, name ∉ keywords) ∧
      ∀ t ∈ d.types, t.variant = .interface → ∀ name ∈ t.visibleNames, name ∉ objectMethods := by
  refine ⟨fun name => ⟨?_, isSafe_memberName name⟩, fun name => ⟨?_, isSafe_interfaceName name, ?_⟩,
    ?_⟩
  · exact memberName_of_isMarked (isMarked_memberName name)
  · rw [interfaceName, memberName_of_isMarked (isMarked_interfaceName name)]
    rfl
  · exact escapeObjectMethod_not_mem _
  · intro o sources ds stats h d hd
    obtain ⟨rs, -, floating, -, -, rfl⟩ := exists_bound_of_compileSources h
    obtain ⟨r, -, rfl⟩ := List.mem_map.1 hd
    constructor
    · intro name hname
      exact BindingContext.visibleNames_not_mem_keywords hname
    · intro t ht hvariant name hname
      exact BindingContext.visibleNames_not_mem_objectMethods ht hvariant hname

def waitingInterface : Source :=
  ⟨"X.gir", .all, "<repository><namespace name='X'><interface name='I'>
<method name='wait'/></interface></namespace></repository>"⟩

theorem tokens_waitingInterface : Markup.tokens waitingInterface.content = .ok [
    ⟨.startTag "repository" [] false, ⟨1, 1⟩⟩,
    ⟨.startTag "namespace" [("name", "X")] false, ⟨1, 13⟩⟩,
    ⟨.startTag "interface" [("name", "I")] false, ⟨1, 33⟩⟩,
    ⟨.text "\n", ⟨1, 53⟩⟩, ⟨.startTag "method" [("name", "wait")] true, ⟨2, 1⟩⟩,
    ⟨.endTag "interface", ⟨2, 22⟩⟩, ⟨.endTag "namespace", ⟨2, 34⟩⟩,
    ⟨.endTag "repository", ⟨2, 46⟩⟩, ⟨.endOfInput, ⟨2, 59⟩⟩] :=
  (Markup.tokens_ofList _).trans (Attempt.toOption_eq_some_iff.1 (by decide +kernel))

theorem visibleNames_of_waitingInterface : ∃ ds stats,
    compileSources .default [waitingInterface] = .ok (ds, stats) ∧
    ds.map (·.types.map TypeDecision.visibleNames) = [[["wait_"]]] ∧ ∀ d ∈ ds,
      (∀ name ∈ d.visibleNames, name ∉ keywords) ∧
      ∀ t ∈ d.types, t.variant = .interface → ∀ name ∈ t.visibleNames, name ∉ objectMethods := by
  have hrun : (compileSources .default [waitingInterface]).toOption.map
      (·.1.map (·.types.map TypeDecision.visibleNames)) = some [[["wait_"]]] := by
    rw [compileSources, buildRepositories, readAll, List.mapM_cons, Source.repository, Source.root,
      tokens_waitingInterface]
    decide +kernel
  obtain ⟨⟨ds, stats⟩, hcompile, hds⟩ := Option.map_eq_some_iff.1 hrun
  have hcompile := Attempt.toOption_eq_some_iff.1 hcompile
  obtain ⟨-, -, hnames⟩ := visibleNames_of_compileSources
  exact ⟨ds, stats, hcompile, hds, hnames _ _ ds stats hcompile⟩

end GirBind

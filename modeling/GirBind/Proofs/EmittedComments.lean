import GirBind.Proofs.ClassNames
import GirBind.Proofs.Doc.BlockComment
import GirBind.Proofs.Doc.Conversion
import GirBind.Proofs.SymbolIndex

namespace GirBind

open Doc (IsBlockComment)

def Callable.docTexts (c : Callable) : List String :=
  c.doc.toList ++ c.parameters.filterMap Parameter.doc ++
    (c.returnValue.bind Parameter.doc).toList ++ c.docDeprecated.toList

theorem Callable.mem_docTexts {c : Callable} {p : Parameter} {text : String} (hp : p ∈ c.parameters)
    (htext : p.doc = some text) : text ∈ c.docTexts :=
  List.mem_append_left _ (List.mem_append_left _ (List.mem_append_right _
    (List.mem_filterMap.2 ⟨p, hp, htext⟩)))

namespace Namespace

def callables (ns : Namespace) : List Callable :=
  ns.types.values.flatMap (fun t => t.callables ++ (Callable.ofNode? t.node).toList) ++
    ns.functions.filterMap Callable.ofNode?

def docTexts (ns : Namespace) : List String :=
  ns.types.values.flatMap (fun t => t.node.doc?.toList ++ t.members.filterMap Node.doc?) ++
    ns.constants.filterMap Node.doc? ++ ns.callables.flatMap Callable.docTexts

/-- Everything that a native identifier or type name can lead to. -/
def declared (ns : Namespace) : List Node :=
  ns.functions ++ ns.constants ++ ns.types.values.flatMap fun t => t.node :: t.node.children

theorem mem_docTexts {ns : Namespace} {c : Callable} {text : String} (hc : c ∈ ns.callables)
    (htext : text ∈ c.docTexts) : text ∈ ns.docTexts :=
  List.mem_append_right _ (List.mem_flatMap.2 ⟨c, hc, htext⟩)

/-- Neither the names nor the texts have a terminator, and parameter names fit on a line. -/
@[mk_iff]
structure IsHarmless (ns : Namespace) : Prop where
  name : Harmless ns.name
  keys : ∀ key ∈ ns.types.keys, Harmless key
  names : ∀ n ∈ ns.declared, Harmless n.name
  texts : ∀ text ∈ ns.docTexts, Harmless text
  versions : ∀ t ∈ ns.types.values, ∀ version ∈ t.node.version?, Harmless version
  parameters : ∀ c ∈ ns.callables, ∀ p ∈ c.parameters,
    Harmless (p.name.getD "") ∧ '\n' ∉ (p.name.getD "").toList

instance (ns : Namespace) : Decidable ns.IsHarmless :=
  decidable_of_iff _ (isHarmless_iff ns).symm

end Namespace

namespace SymbolTable

variable {rs : List Repository} {naming : PackageNaming}

theorem isHarmless_build (h : ∀ r ∈ rs, r.library.IsHarmless)
    (hpackages : ∀ r ∈ rs, Harmless (naming.package r.library.name)) :
    (build rs naming).IsHarmless := by
  have hpackage (r : Repository) (hr : r ∈ rs) :
      Harmless ((build rs naming).package r.library.name) := by
    rw [package, naming_build]
    exact hpackages r hr
  refine ⟨fun name ns hns => ?_, fun identifier y hy => ?_, fun cType e he => ?_⟩
  · obtain ⟨r, hr, rfl⟩ := exists_of_mem_namespaces (OrderedMap.mem_values_of_get? hns)
    refine ⟨(h r hr).name, hpackage r hr, fun t ht => (h r hr).names t.node ?_⟩
    exact List.mem_append_right _ (List.mem_flatMap.2 ⟨t, ht, List.mem_cons_self⟩)
  · obtain ⟨r, hr, hmem⟩ := exists_of_symbol? hy
    obtain ⟨hlibrary, hname, hplace⟩ := Symbol.of_mem_ofNamespace hmem
    rw [hlibrary, hname]
    refine ⟨(h r hr).name, hpackage r hr, ?_⟩
    rcases hplace with ⟨howner, hnode⟩ | ⟨key, t, ht, howner, hnode⟩
    · rw [howner]
      exact ⟨(h r hr).names _ (List.mem_append_left _ hnode), fun _ h => absurd h (by simp)⟩
    · rw [howner]
      refine ⟨(h r hr).names _ (List.mem_append_right _ (List.mem_flatMap.2
        ⟨t, List.mem_map_of_mem ht, List.mem_cons_of_mem _ hnode⟩)), fun type htype => ?_⟩
      obtain rfl := Option.some.inj htype
      exact (h r hr).keys _ (List.mem_map_of_mem ht)
  · obtain ⟨r, hr, hlibrary, ht⟩ := exists_of_nativeType? he
    rw [hlibrary]
    refine ⟨hpackage r hr, (h r hr).names e.type.node ?_⟩
    exact List.mem_append_right _ (List.mem_flatMap.2 ⟨e.type, ht, List.mem_cons_self⟩)

end SymbolTable

namespace Doc

/-- The pieces of the comments in a namespace: a text of its documentation with a fixed tag or that
of a parameter, a version, or a fixed text. -/
inductive IsPiece (ctx : Context) (ns : Namespace) : Entry → Prop
  | text {tag : Option String} {text : String} (htag : tag ∈ [none, "@return", "@deprecated"])
      (htext : text ∈ ns.docTexts) : IsPiece ctx ns (ctx.entry tag text)
  | parameter {c : Callable} {p : Parameter} {text : String} (hc : c ∈ ns.callables)
      (hp : p ∈ c.parameters) (htext : p.doc = some text) :
      IsPiece ctx ns (ctx.entry
        (some ("@param " ++ if p.isVariadic then "varargs" else Java.memberName (p.name.getD "")))
        text)
  | version {t : RegisteredType} {version : String} (ht : t ∈ ns.types.values)
      (hversion : t.node.version? = some version) :
      IsPiece ctx ns ⟨some "@version", .ofText version⟩
  | fixed {c : Callable} {use : CallableUse} {e : Entry}
      (he : e ∈ Context.throwsEntries c use ++ Context.signalEntries c) : IsPiece ctx ns e

theorem noTerminator_platforms (platforms : PlatformSet) : NoTerminator
    ("UnsupportedPlatformException when run on a platform other than " ++
      " or ".intercalate (platforms.names.map (Java.camelCase true))).toList := by
  obtain ⟨linux, windows, macos⟩ := platforms
  cases linux <;> cases windows <;> cases macos <;> decide +kernel

theorem tagFits_some {tag : String} {body : Converted}
    (h : '\n' ∉ tag.toList ∧ NoTerminator tag.toList) : (⟨some tag, body⟩ : Entry).TagFits := by
  rintro _ ⟨⟩
  exact h

theorem fits_fixed {c : Callable} {use : CallableUse} {e : Entry}
    (he : e ∈ Context.throwsEntries c use ++ Context.signalEntries c) :
    e.TagFits ∧ NoTerminator e.body.text.toList := by
  simp only [Context.throwsEntries, Context.signalEntries, List.mem_append, List.mem_cons,
    List.mem_ite_nil_right, List.not_mem_nil, or_false] at he
  rcases he with (⟨-, rfl⟩ | ⟨-, rfl⟩) | ⟨-, rfl⟩ | rfl | rfl
  · exact ⟨tagFits_some (by decide +kernel), by decide +kernel⟩
  · exact ⟨tagFits_some (by decide +kernel), noTerminator_platforms use.platforms⟩
  · exact ⟨tagFits_some (by decide +kernel), by decide +kernel⟩
  · exact ⟨tagFits_some (by decide +kernel), by decide +kernel⟩
  · exact ⟨tagFits_some (by decide +kernel), by decide +kernel⟩

/-- Harmless texts and names make pieces that fit into a comment. -/
theorem IsPiece.fits {ctx : Context} {ns : Namespace} {e : Entry} (h : IsPiece ctx ns e)
    (hctx : ctx.table.IsHarmless) (hns : ns.IsHarmless) :
    e.TagFits ∧ NoTerminator e.body.text.toList := by
  cases h with
  | text htag htext =>
    refine ⟨fun tag ht => ?_, noTerminator_convert hctx (hns.texts _ htext)⟩
    have hall : ∀ tag ∈ [none, some "@return", some "@deprecated"], ∀ t ∈ tag,
        '\n' ∉ t.toList ∧ NoTerminator t.toList := by decide +kernel
    exact hall _ htag tag ht
  | @parameter c p text hc hp htext =>
    obtain ⟨hname, hbreak⟩ := hns.parameters c hc p hp
    have hshown : text ∈ ns.docTexts := Namespace.mem_docTexts hc (Callable.mem_docTexts hp htext)
    refine ⟨tagFits_some ?_, noTerminator_convert hctx (hns.texts _ hshown)⟩
    have hmember : '\n' ∉ (if p.isVariadic then "varargs" else
        Java.memberName (p.name.getD "")).toList ∧ NoTerminator (if p.isVariadic then "varargs" else
        Java.memberName (p.name.getD "")).toList := by
      split
      case isTrue => decide +kernel
      case isFalse => exact ⟨NoTerminator.not_mem_memberName hbreak, hname.memberName⟩
    rw [String.toList_append, List.mem_append, not_or, NoTerminator.append_iff]
    exact ⟨⟨by decide, hmember.1⟩, by decide +kernel, hmember.2, fun h => absurd h (by decide)⟩
  | version ht hversion =>
    exact ⟨tagFits_some (by decide +kernel), (hns.versions _ ht _ hversion).noTerminator⟩
  | fixed he => exact fits_fixed he

/-- What holds of the comments on the declarations of a namespace. They are put together from
pieces in a frame that opens and closes a comment, and are one exactly if no piece has a
terminator, as long as the tags fit. -/
structure AssembledComment (ctx : Context) (ns : Namespace) (doc : Converted)
    (entries : List Entry) : Prop where
  eq_comment : doc = comment entries
  pieces : ∀ e ∈ entries, IsPiece ctx ns e
  opens : ['/', '*', '*'] <+: doc.text.toList
  closes : ['*', '/'] <:+ doc.text.toList
  isBlockComment_iff : (∀ e ∈ entries, e.TagFits) →
    (IsBlockComment doc.text.toList ↔ ∀ e ∈ entries, NoTerminator e.body.text.toList)

theorem assembledComment {ctx : Context} {ns : Namespace} {entries : List Entry}
    (h : ∀ e ∈ entries, IsPiece ctx ns e) : AssembledComment ctx ns (comment entries) entries where
  eq_comment := rfl
  pieces := h
  opens := toList_comment entries ▸ opens_framed _
  closes := toList_comment entries ▸ closes_framed _
  isBlockComment_iff := isBlockComment_iff

end Doc

namespace BindingContext

variable {ctx : BindingContext} {floating : FloatingTable}

open Doc (AssembledComment assembledComment IsPiece)

theorem exists_assembled_callable {owner : Option RegisteredType} {c : Callable}
    (hc : c ∈ ctx.library.callables) {sig : Signature} {doc : Doc.Converted}
    (h : (ctx.memberDecision owner c sig).doc = some doc) :
    ∃ entries, AssembledComment ctx.doc ctx.library doc entries := by
  obtain ⟨text, htext, rfl⟩ := Option.map_eq_some_iff.1 h
  have hshown {text : String} (h : text ∈ c.docTexts) : text ∈ ctx.library.docTexts :=
    Namespace.mem_docTexts hc h
  refine ⟨_, assembledComment fun e he => ?_⟩
  rw [List.mem_cons, List.mem_append, List.mem_append] at he
  rcases he with rfl | (hplain | hsignal) | hdeprecated
  · refine .text (by decide) (hshown ?_)
    simp only [Callable.docTexts, List.mem_append, Option.mem_toList]
    exact .inl (.inl (.inl htext))
  · split at hplain
    case isTrue => exact absurd hplain List.not_mem_nil
    case isFalse =>
      rw [List.mem_append, List.mem_append] at hplain
      rcases hplain with (hparameter | hreturn) | hthrows
      · obtain ⟨⟨p, i⟩, hp, he⟩ := List.mem_filterMap.1 hparameter
        dsimp only at he
        split at he
        case isTrue => cases he
        case isFalse =>
          obtain ⟨text, htext, rfl⟩ := Option.map_eq_some_iff.1 he
          exact .parameter hc (List.fst_mem_of_mem_zipIdx hp) htext
      · rw [Doc.Context.returnEntry] at hreturn
        split at hreturn
        case isTrue => exact absurd hreturn List.not_mem_nil
        case isFalse =>
          obtain ⟨text, htext, rfl⟩ := Option.map_eq_some_iff.1 (Option.mem_toList.1 hreturn)
          refine .text (by decide) (hshown ?_)
          simp only [Callable.docTexts, List.mem_append, Option.mem_toList]
          exact .inl (.inr htext)
      · exact .fixed (List.mem_append_left _ hthrows)
  · split at hsignal
    case isTrue =>
      exact @IsPiece.fixed _ _ c ⟨false, .all, true⟩ _ (List.mem_append_right _ hsignal)
    case isFalse => exact absurd hsignal List.not_mem_nil
  · rw [Doc.Context.deprecatedEntry] at hdeprecated
    split at hdeprecated
    case isTrue =>
      obtain ⟨text, htext, rfl⟩ := Option.map_eq_some_iff.1 (Option.mem_toList.1 hdeprecated)
      refine .text (by decide) (hshown ?_)
      simp only [Callable.docTexts, List.mem_append, Option.mem_toList]
      exact .inr htext
    case isFalse => exact absurd hdeprecated List.not_mem_nil

theorem exists_assembled_node {n : Node} (hn : ∀ text ∈ n.doc?, text ∈ ctx.library.docTexts)
    {doc : Doc.Converted} (h : ctx.doc.nodeComment n = some doc) :
    ∃ entries, AssembledComment ctx.doc ctx.library doc entries := by
  obtain ⟨text, htext, rfl⟩ := Option.map_eq_some_iff.1 h
  refine ⟨_, assembledComment fun e he => ?_⟩
  rw [List.mem_singleton.1 he]
  exact .text (by decide) (hn text htext)

theorem exists_assembled_type {t : RegisteredType} (ht : t ∈ ctx.library.types.values)
    {doc : Doc.Converted} (h : ctx.doc.typeComment t = some doc) :
    ∃ entries, AssembledComment ctx.doc ctx.library doc entries := by
  obtain ⟨text, htext, rfl⟩ := Option.map_eq_some_iff.1 h
  refine ⟨_, assembledComment fun e he => ?_⟩
  rcases List.mem_cons.1 he with rfl | hversion
  · refine .text (by decide) ?_
    simp only [Namespace.docTexts, List.mem_append, List.mem_flatMap, Option.mem_toList]
    exact .inl (.inl ⟨t, ht, .inl htext⟩)
  · obtain ⟨version, hnode, rfl⟩ := Option.map_eq_some_iff.1 (Option.mem_toList.1 hversion)
    exact .version ht hnode

theorem exists_assembled_bound {owner : Option RegisteredType} {c : Callable}
    (hc : c ∈ ctx.library.callables) {declaration : String} {d : MemberDecision}
    (hd : ctx.bindCallable declaration owner c = .ok d) {doc : Doc.Converted}
    (h : d.doc = some doc) : ∃ entries, AssembledComment ctx.doc ctx.library doc entries := by
  obtain ⟨sig, -, rfl⟩ := bindCallable_eq_ok_iff.1 hd
  exact exists_assembled_callable hc h

theorem exists_assembled {doc : Doc.Converted} (h : doc ∈ (ctx.bindNamespace floating).docs) :
    ∃ entries, AssembledComment ctx.doc ctx.library doc entries := by
  rw [NamespaceDecision.docs, List.mem_append, List.mem_append] at h
  rcases h with (htype | hfunction) | hconstant
  · obtain ⟨d, hd, hdoc⟩ := List.mem_flatMap.1 htype
    obtain ⟨t, ht, skipped, hd⟩ := mem_types.1 hd
    have hmember {c : Callable} (hc : c ∈ t.callables ++ (Callable.ofNode? t.node).toList) :
        c ∈ ctx.library.callables := List.mem_append_left _ (List.mem_flatMap.2 ⟨t, ht, hc⟩)
    obtain ⟨_, _, _, callback, -, -, -, hcallback, rfl, -⟩ := bindType_eq_ok_iff.1 hd
    simp only [TypeDecision.docs, List.mem_append] at hdoc
    rcases hdoc with ((hown | henum) | hsignature) | hbound
    · exact exists_assembled_type ht (Option.mem_toList.1 hown)
    · dsimp only [typeDecision] at henum
      split at henum
      case isTrue =>
        obtain ⟨m, hm, hdoc⟩ := List.mem_filterMap.1 henum
        obtain ⟨n, hn, rfl⟩ := List.mem_map.1 hm
        refine exists_assembled_node (fun text htext => ?_) hdoc
        simp only [Namespace.docTexts, List.mem_append, List.mem_flatMap, List.mem_filterMap]
        exact .inl (.inl ⟨t, ht, .inr ⟨n, hn, htext⟩⟩)
      case isFalse => exact absurd henum List.not_mem_nil
    · obtain ⟨m, hm, hdoc⟩ := Option.bind_eq_some_iff.1 (Option.mem_toList.1 hsignature)
      obtain rfl : callback = some m := hm
      obtain ⟨-, c, hc, hbind⟩ := callbackPart_eq_ok hcallback
      exact exists_assembled_bound
        (hmember (List.mem_append_right _ (Option.mem_toList.2 hc))) hbind hdoc
    · obtain ⟨m, hm, hdoc⟩ := List.mem_filterMap.1 hbound
      obtain ⟨n, hn, c, hc, hbind⟩ := mem_memberAttempts.1 hm
      exact exists_assembled_bound
        (hmember (List.mem_append_left _ (List.mem_filterMap.2 ⟨n, hn, hc⟩))) hbind hdoc
  · obtain ⟨d, hd, hdoc⟩ := List.mem_filterMap.1 hfunction
    obtain ⟨n, hn, c, hc, hd⟩ := mem_functions.1 hd
    exact exists_assembled_bound
      (List.mem_append_right _ (List.mem_filterMap.2 ⟨n, hn, hc⟩)) hd hdoc
  · obtain ⟨d, hd, hdoc⟩ := List.mem_filterMap.1 hconstant
    obtain ⟨n, hn, hd⟩ := mem_constants.1 hd
    obtain ⟨_, _, rfl⟩ := exists_of_bindConstant hd
    refine exists_assembled_node (fun text htext => ?_) hdoc
    simp only [Namespace.docTexts, List.mem_append, List.mem_filterMap]
    exact .inl (.inr ⟨n, hn, htext⟩)

end BindingContext

/-- In every run each comment is put together from pieces of its namespace, in a frame that opens
and closes a block comment. If no declared name and no documentation has a terminator, all of them
are proper block comments. -/
theorem comments_of_compileSources {o : Options} {sources : List Source}
    {ds : List NamespaceDecision} {stats : Statistics}
    (h : compileSources o sources = .ok (ds, stats)) :
    ∃ rs applied, buildRepositories o sources = .ok (rs, applied) ∧
      List.Forall₂ (fun r d => ∀ doc ∈ d.docs, ∃ entries,
        Doc.AssembledComment ⟨.build rs o.naming, r.library.name⟩ r.library doc entries) rs ds ∧
      ((∀ r ∈ rs, r.library.IsHarmless ∧ Harmless (o.naming.package r.library.name)) →
        ∀ d ∈ ds, ∀ doc ∈ d.docs, IsBlockComment doc.text.toList) := by
  obtain ⟨rs, applied, floating, hbuild, hnodup, rfl⟩ := exists_bound_of_compileSources h
  have hassembled (r : Repository) : ∀ doc ∈ (BindingContext.bindNamespace
      ⟨.build rs o.naming, r.library⟩ floating).docs, ∃ entries,
      Doc.AssembledComment ⟨.build rs o.naming, r.library.name⟩ r.library doc entries :=
    fun _ hdoc => BindingContext.exists_assembled hdoc
  refine ⟨rs, applied, hbuild, ?_, fun hharmless d hd doc hdoc => ?_⟩
  · rw [List.forall₂_map_right_iff, List.forall₂_same]
    exact fun r _ => hassembled r
  · obtain ⟨r, hr, rfl⟩ := List.mem_map.1 hd
    obtain ⟨entries, hentries⟩ := hassembled r doc hdoc
    have htable : (SymbolTable.build rs o.naming).IsHarmless :=
      SymbolTable.isHarmless_build (fun r hr => (hharmless r hr).1) fun r hr => (hharmless r hr).2
    have hfits := fun e he => (hentries.pieces e he).fits htable (hharmless r hr).1
    exact (hentries.isBlockComment_iff fun e he => (hfits e he).1).2 fun e he => (hfits e he).2

def linkedClass : Source :=
  ⟨"X.gir", .all, "<repository><namespace name='X'><class name='A'><doc>See [class@A].</doc></class>
</namespace></repository>"⟩

theorem tokens_linkedClass : Markup.tokens linkedClass.content = .ok [
    ⟨.startTag "repository" [] false, ⟨1, 1⟩⟩,
    ⟨.startTag "namespace" [("name", "X")] false, ⟨1, 13⟩⟩,
    ⟨.startTag "class" [("name", "A")] false, ⟨1, 33⟩⟩, ⟨.startTag "doc" [] false, ⟨1, 49⟩⟩,
    ⟨.text "See [class@A].", ⟨1, 54⟩⟩, ⟨.endTag "doc", ⟨1, 68⟩⟩, ⟨.endTag "class", ⟨1, 74⟩⟩,
    ⟨.text "\n", ⟨1, 82⟩⟩, ⟨.endTag "namespace", ⟨2, 1⟩⟩, ⟨.endTag "repository", ⟨2, 13⟩⟩,
    ⟨.endOfInput, ⟨2, 26⟩⟩] :=
  (Markup.tokens_ofList _).trans (Attempt.toOption_eq_some_iff.1 (by decide +kernel))

def NamespaceDecision.comments (d : NamespaceDecision) : List String :=
  d.docs.map Doc.Converted.text

theorem comments_of_linkedClass : ∃ ds stats rs applied,
    compileSources .default [linkedClass] = .ok (ds, stats) ∧
    buildRepositories .default [linkedClass] = .ok (rs, applied) ∧
    (∀ r ∈ rs, r.library.IsHarmless ∧
      Harmless (Options.default.naming.package r.library.name)) ∧
    ds.map NamespaceDecision.comments = [["/**\n * See \x7b@link A\x7d.\n */"]] ∧
    ∀ d ∈ ds, ∀ doc ∈ d.docs, IsBlockComment doc.text.toList := by
  have hrun : (compileSources .default [linkedClass]).toOption.map
        (·.1.map NamespaceDecision.comments) = some [["/**\n * See \x7b@link A\x7d.\n */"]] ∧
      (buildRepositories .default [linkedClass]).toOption.all (fun out => decide (∀ r ∈ out.1,
        r.library.IsHarmless ∧ Harmless (Options.default.naming.package r.library.name))) := by
    rw [compileSources, buildRepositories, readAll, List.mapM_cons, Source.repository, Source.root,
      tokens_linkedClass]
    decide +kernel
  obtain ⟨hrun, hharmless⟩ := hrun
  obtain ⟨⟨ds, stats⟩, hcompile, hds⟩ := Option.map_eq_some_iff.1 hrun
  have hcompile := Attempt.toOption_eq_some_iff.1 hcompile
  obtain ⟨rs, applied, hbuild, -, hcomments⟩ := comments_of_compileSources hcompile
  rw [hbuild] at hharmless
  have hharmless := of_decide_eq_true hharmless
  exact ⟨ds, stats, rs, applied, hcompile, hbuild, hharmless, hds, hcomments hharmless⟩

def brokenClass : Source :=
  ⟨"X.gir", .all, "<repository><namespace name='X'><class name='A'><doc>a */ b</doc></class>
</namespace></repository>"⟩

theorem tokens_brokenClass : Markup.tokens brokenClass.content = .ok [
    ⟨.startTag "repository" [] false, ⟨1, 1⟩⟩,
    ⟨.startTag "namespace" [("name", "X")] false, ⟨1, 13⟩⟩,
    ⟨.startTag "class" [("name", "A")] false, ⟨1, 33⟩⟩, ⟨.startTag "doc" [] false, ⟨1, 49⟩⟩,
    ⟨.text "a */ b", ⟨1, 54⟩⟩, ⟨.endTag "doc", ⟨1, 60⟩⟩, ⟨.endTag "class", ⟨1, 66⟩⟩,
    ⟨.text "\n", ⟨1, 74⟩⟩, ⟨.endTag "namespace", ⟨2, 1⟩⟩, ⟨.endTag "repository", ⟨2, 13⟩⟩,
    ⟨.endOfInput, ⟨2, 26⟩⟩] :=
  (Markup.tokens_ofList _).trans (Attempt.toOption_eq_some_iff.1 (by decide +kernel))

/-- A terminator in the documentation ends the comment early. -/
theorem exists_broken_comment : ¬ ∀ (o : Options) (sources : List Source)
    (ds : List NamespaceDecision) (stats : Statistics),
    compileSources o sources = .ok (ds, stats) →
    ∀ d ∈ ds, ∀ doc ∈ d.docs, IsBlockComment doc.text.toList := by
  intro hall
  have hrun : (compileSources .default [brokenClass]).toOption.map
      (·.1.flatMap NamespaceDecision.comments) = some ["/**\n * a */ b\n */"] := by
    rw [compileSources, buildRepositories, readAll, List.mapM_cons, Source.repository, Source.root,
      tokens_brokenClass]
    decide +kernel
  obtain ⟨⟨ds, stats⟩, hcompile, hds⟩ := Option.map_eq_some_iff.1 hrun
  have hmem : "/**\n * a */ b\n */" ∈ ds.flatMap NamespaceDecision.comments :=
    hds ▸ List.mem_singleton_self _
  obtain ⟨d, hd, hmem⟩ := List.mem_flatMap.1 hmem
  obtain ⟨doc, hdoc, htext⟩ := List.mem_map.1 hmem
  have hcomment := hall .default _ ds stats (Attempt.toOption_eq_some_iff.1 hcompile) d hd doc hdoc
  rw [htext] at hcomment
  exact absurd (hcomment.terminator "/**\n * a ".toList " b\n */".toList (by decide)) (by decide)

end GirBind

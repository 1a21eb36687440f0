import GirBind.Compile
import GirBind.Proofs.ConstantType
import GirBind.Proofs.Markup.Reading
import GirBind.Proofs.StringLiteral

namespace GirBind

open Java

namespace BindingContext

variable {ctx : BindingContext} {floating : FloatingTable} {n : Node}

theorem bindConstant_of_constantType? (h : ctx.constantType? n = some .string) :
    ctx.bindConstant n = .ok {
      name := n.name
      visibleName := constantName n.name
      javaType := Primitive.string.javaType
      value := stringLiteral (Text.trim (constantText n))
      platforms := n.platforms
      doc := ctx.doc.nodeComment n } := bindConstant_eq h

/-- A constant whose type leads to text has a decision. Its value is one string literal if and only
if the declared value breaks no line, blanks around it apart, and then it denotes the declared value
without these blanks. -/
theorem readString?_of_bindConstant (hn : n ∈ ctx.library.constants)
    (h : ctx.constantType? n = some .string) :
    ∃ d ∈ (ctx.bindNamespace floating).constants, ctx.bindConstant n = .ok d ∧
      ((∃ us, readString? d.value = some us) ↔ ¬ BreaksLine (Text.trim (constantText n))) ∧
      ∀ text : String, readString? d.value = some (units text.toList) ↔
        text = Text.trim (constantText n) ∧ ¬ BreaksLine (Text.trim (constantText n)) := by
  have hbound := bindConstant_of_constantType? h
  exact ⟨_, mem_constants.2 ⟨n, hn, hbound⟩, hbound, exists_readString?_iff,
    fun _ => readString?_eq_some_iff⟩

end BindingContext

def quotedConstant : Source :=
  ⟨"X.gir", .all, "<repository><namespace name='X'><alias name='S'><type name='utf8'/></alias>
<constant name='C' value='\x22'><type name='S'/></constant></namespace></repository>"⟩

set_option maxRecDepth 2000 in
theorem tokens_quotedConstant : Markup.tokens quotedConstant.content = .ok [
    ⟨.startTag "repository" [] false, ⟨1, 1⟩⟩,
    ⟨.startTag "namespace" [("name", "X")] false, ⟨1, 13⟩⟩,
    ⟨.startTag "alias" [("name", "S")] false, ⟨1, 33⟩⟩,
    ⟨.startTag "type" [("name", "utf8")] true, ⟨1, 49⟩⟩, ⟨.endTag "alias", ⟨1, 68⟩⟩,
    ⟨.text "\n", ⟨1, 76⟩⟩,
    ⟨.startTag "constant" [("name", "C"), ("value", "\x22")] false, ⟨2, 1⟩⟩,
    ⟨.startTag "type" [("name", "S")] true, ⟨2, 30⟩⟩, ⟨.endTag "constant", ⟨2, 46⟩⟩,
    ⟨.endTag "namespace", ⟨2, 57⟩⟩, ⟨.endTag "repository", ⟨2, 69⟩⟩, ⟨.endOfInput, ⟨2, 82⟩⟩] :=
  (Markup.tokens_ofList _).trans (Attempt.toOption_eq_some_iff.1 (by decide +kernel))

theorem readString?_of_quotedConstant : ∃ r, quotedConstant.repository = .ok r ∧
    ∃ d ∈ (BindingContext.bindNamespace ⟨.build [r] Options.default.naming, r.library⟩
      (.build (.build [r] Options.default.naming))).constants,
      readString? d.value = some (units ['\x22']) := by
  have hread : ∃ r, quotedConstant.repository = .ok r ∧ ∃ n ∈ r.library.constants,
      BindingContext.constantType? ⟨.build [r] Options.default.naming, r.library⟩ n =
        some .string ∧ BindingContext.constantText n = "\x22" := by
    rw [Source.repository, Source.root, tokens_quotedConstant]
    exact ⟨_, rfl, by decide +kernel⟩
  obtain ⟨r, hr, n, hn, htype, htext⟩ := hread
  obtain ⟨d, hd, -, -, hvalue⟩ := BindingContext.readString?_of_bindConstant hn htype
  rw [htext] at hvalue
  have hbreaks : ¬ BreaksLine (Text.trim "\x22") :=
    not_breaksLine_iff.2 (List.forall_mem_singleton.2 (by decide))
  exact ⟨r, hr, d, hd, (hvalue "\x22").2 ⟨rfl, hbreaks⟩⟩

def brokenConstant : Source :=
  ⟨"X.gir", .all, "<repository><namespace name='X'><constant name='S' value='a&#10;b'>
<type name='utf8'/></constant></namespace></repository>"⟩

theorem tokens_brokenConstant : Markup.tokens brokenConstant.content = .ok [
    ⟨.startTag "repository" [] false, ⟨1, 1⟩⟩,
    ⟨.startTag "namespace" [("name", "X")] false, ⟨1, 13⟩⟩,
    ⟨.startTag "constant" [("name", "S"), ("value", "a\nb")] false, ⟨1, 33⟩⟩,
    ⟨.text "\n", ⟨1, 68⟩⟩, ⟨.startTag "type" [("name", "utf8")] true, ⟨2, 1⟩⟩,
    ⟨.endTag "constant", ⟨2, 20⟩⟩, ⟨.endTag "namespace", ⟨2, 31⟩⟩,
    ⟨.endTag "repository", ⟨2, 43⟩⟩, ⟨.endOfInput, ⟨2, 56⟩⟩] :=
  (Markup.tokens_ofList _).trans (Attempt.toOption_eq_some_iff.1 (by decide +kernel))

/-- The literal of a value that breaks a line breaks it too, and is none in Java. -/
theorem exists_broken_literal : ∃ ds stats,
    compileSources .default [brokenConstant] = .ok (ds, stats) ∧
    ds.map (·.constants.map fun d => (d.name, d.javaType, d.value)) =
      [[("S", "java.lang.String", "\x22a\nb\x22")]] ∧ readString? "\x22a\nb\x22" = none := by
  have hrun : (compileSources .default [brokenConstant]).toOption.map
      (·.1.map (·.constants.map fun d => (d.name, d.javaType, d.value))) =
      some [[("S", "java.lang.String", "\x22a\nb\x22")]] := by
    rw [compileSources, buildRepositories, readAll, List.mapM_cons, Source.repository, Source.root,
      tokens_brokenConstant]
    decide +kernel
  obtain ⟨⟨ds, stats⟩, hcompile, hds⟩ := Option.map_eq_some_iff.1 hrun
  exact ⟨ds, stats, Attempt.toOption_eq_some_iff.1 hcompile, hds, by decide +kernel⟩

end GirBind

import GirBind.Compile
import GirBind.Proofs.ConstantType
import GirBind.Proofs.IntegerLiteral
import GirBind.Proofs.Markup.Reading

namespace GirBind

open Numeral (WritesInteger InRange IsCanonical)

namespace BindingContext

variable {ctx : BindingContext} {floating : FloatingTable} {n : Node} {p : Primitive}
  {t : Java.IntegerType}

/-- A constant whose type leads to an integer type is bound to the integer that its value writes, in
canonical form, if the type holds that integer. It is skipped in every other case. -/
theorem integer_of_bindConstant (hn : n ∈ ctx.library.constants)
    (hp : ctx.constantType? n = some p) (ht : p.integerType? = some t) :
    let text := (Text.trim (constantText n)).toList
    (∀ k, WritesInteger k text → InRange t.width k →
      ∃ d ∈ (ctx.bindNamespace floating).constants, ctx.bindConstant n = .ok d ∧
        d.javaType = t.keyword ∧
        ∃ digits, IsCanonical k digits ∧ d.value.toList = digits ++ t.suffix) ∧
    ((∀ k, WritesInteger k text → ¬InRange t.width k) →
      let obstacle := .unsupported ctx.library.name n.name
        s!"value '{constantText n}' is not a valid {t.keyword} literal"
      ctx.bindConstant n = .error obstacle ∧
        .of n.name obstacle ∈ (ctx.bindNamespace floating).skipped) := by
  have hbound := bindConstant_eq hp
  rw [Java.literal?_of_integerType? ht, Primitive.javaType_of_integerType? ht] at hbound
  refine ⟨fun k hk hrange => ?_, fun hnone => ?_⟩
  · rw [Numeral.signed?_eq_some_iff.2 ⟨hk, hrange⟩] at hbound
    refine ⟨_, mem_constants.2 ⟨n, hn, hbound⟩, hbound, rfl, _,
      Numeral.isCanonical_toString k, ?_⟩
    exact String.toList_append.trans (congrArg _ String.toList_ofList)
  · rw [Numeral.signed?_eq_none_iff.2 hnone] at hbound
    exact ⟨hbound, mem_skipped_of_bindConstant hn hbound⟩

end BindingContext

def leastConstant : Source :=
  ⟨"X.gir", .all, "<repository><namespace name='X'><alias name='B'><type name='gint8'/></alias>
<constant name='C' value=' -0128 '><type name='B'/></constant></namespace></repository>"⟩

set_option maxRecDepth 2000 in
theorem tokens_leastConstant : Markup.tokens leastConstant.content = .ok [
    ⟨.startTag "repository" [] false, ⟨1, 1⟩⟩,
    ⟨.startTag "namespace" [("name", "X")] false, ⟨1, 13⟩⟩,
    ⟨.startTag "alias" [("name", "B")] false, ⟨1, 33⟩⟩,
    ⟨.startTag "type" [("name", "gint8")] true, ⟨1, 49⟩⟩, ⟨.endTag "alias", ⟨1, 69⟩⟩,
    ⟨.text "\n", ⟨1, 77⟩⟩,
    ⟨.startTag "constant" [("name", "C"), ("value", " -0128 ")] false, ⟨2, 1⟩⟩,
    ⟨.startTag "type" [("name", "B")] true, ⟨2, 36⟩⟩, ⟨.endTag "constant", ⟨2, 52⟩⟩,
    ⟨.endTag "namespace", ⟨2, 63⟩⟩, ⟨.endTag "repository", ⟨2, 75⟩⟩, ⟨.endOfInput, ⟨2, 88⟩⟩] :=
  (Markup.tokens_ofList _).trans (Attempt.toOption_eq_some_iff.1 (by decide +kernel))

theorem integer_of_leastConstant : ∃ r, leastConstant.repository = .ok r ∧
    ∃ d ∈ (BindingContext.bindNamespace ⟨.build [r] Options.default.naming, r.library⟩
      (.build (.build [r] Options.default.naming))).constants,
      d.javaType = "byte" ∧ IsCanonical (-128) d.value.toList := by
  have hread : ∃ r, leastConstant.repository = .ok r ∧ ∃ n ∈ r.library.constants,
      BindingContext.constantType? ⟨.build [r] Options.default.naming, r.library⟩ n =
        some .byte ∧ (Text.trim (BindingContext.constantText n)).toList = "-0128".toList := by
    rw [Source.repository, Source.root, tokens_leastConstant]
    exact ⟨_, rfl, by decide +kernel⟩
  obtain ⟨r, hr, n, hn, htype, htext⟩ := hread
  obtain ⟨hbound, -⟩ := BindingContext.integer_of_bindConstant hn htype rfl
  rw [htext] at hbound
  obtain ⟨hwrites, hrange⟩ := Numeral.signed?_eq_some_iff.1 (by decide +kernel :
    Numeral.signed? 8 "-0128".toList = some (-128))
  obtain ⟨d, hd, -, hjava, digits, hdigits, hvalue⟩ := hbound (-128) hwrites hrange
  rw [List.append_nil] at hvalue
  exact ⟨r, hr, d, hd, hjava, hvalue ▸ hdigits⟩

end GirBind

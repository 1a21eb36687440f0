import GirBind.Proofs.Content
import GirBind.Proofs.Markup.Reading
import GirBind.Source

namespace GirBind

namespace Markup

theorem Lexes.append {ts us : List Token} {s r : List Char} (h : Lexes ts s) (hr : Lexes us r)
    (hstart : StartsWith (· = '<') r) : Lexes (ts ++ us) (s ++ r) := by
  induction h with
  | nil => exact hr
  | markup ht _ ih =>
    rw [List.append_assoc]
    exact .markup ht ih
  | @text value first rest ts hvalue hne hnext _ ih =>
    rw [List.append_assoc]
    refine .text hvalue hne ?_ ih
    cases rest with
    | nil => exact hstart
    | cons c rest => exact hnext

theorem exists_inSequence {α : Type u} {writes : α → List Char → Prop} {l : List α}
    (h : ∀ a ∈ l, ∃ s, writes a s) : ∃ s, InSequence writes l s := by
  induction l with
  | nil => exact ⟨[], .nil⟩
  | cons a l ih =>
    obtain ⟨⟨s, hs⟩, hl⟩ := List.forall_mem_cons.1 h
    obtain ⟨r, hr⟩ := ih hl
    exact ⟨s ++ r, .cons hs hr⟩

theorem exists_spelled (close : Char) (hclose : close ∈ ['<', '\x22', '\x27'])
    (value : List Char) : ∃ s, Spelled close value s := by
  apply exists_inSequence
  intro c _
  by_cases hplain : c ∈ ['&', '<', close]
  · have hnamed : ∃ name, (c, name) ∈ namedCharacters := by
      simp only [List.mem_cons, List.not_mem_nil, or_false] at hclose hplain
      rcases hplain with rfl | rfl | rfl
      · exact ⟨['a', 'm', 'p'], by decide⟩
      · exact ⟨['l', 't'], by decide⟩
      · rcases hclose with rfl | rfl | rfl
        · exact ⟨['l', 't'], by decide⟩
        · exact ⟨['q', 'u', 'o', 't'], by decide⟩
        · exact ⟨['a', 'p', 'o', 's'], by decide⟩
    obtain ⟨name, hname⟩ := hnamed
    exact ⟨_, .reference (.named hname)⟩
  · exact ⟨_, .itself hplain⟩

theorem Spelled.ne_nil {close : Char} {value s : List Char} (h : Spelled close value s)
    (hvalue : value ≠ []) : s ≠ [] := by
  rintro rfl
  have hdecode := Reference.decode_spelled h
  rw [Reference.decode] at hdecode
  exact hvalue (Except.ok.inj hdecode).symm

theorem exists_attributes {attributes : List (String × String)}
    (h : ∀ e ∈ attributes, isName e.1.toList = true) :
    ∃ s, InSequence (Apart AttributeText) attributes s := by
  apply exists_inSequence
  intro e he
  obtain ⟨s, hs⟩ := exists_spelled '\x22' (by decide) e.2.toList
  have hnone : AreBlank [] := fun c hc => absurd hc List.not_mem_nil
  have hspace : AreBlank [' '] := by
    intro c hc
    rw [List.mem_singleton.1 hc]
    rfl
  exact ⟨_, .blanks (List.cons_ne_nil _ _) hspace (.quoted (h e he) hnone hnone (.inl rfl) hs)⟩

end Markup

namespace Node

open Markup (Lexes StartsWith)

def Renders (n : Node) (text : String) : Prop :=
  ∃ layout ts, Content [n] layout ts ∧ Text.allBlank layout = true ∧ Lexes ts text.toList

/-- Attributes have proper names, and text stands only in elements that hold it. -/
inductive IsPrintable : Node → Prop
  | mk {n : Node} (hkeys : ∀ e ∈ n.attributes.entries, Markup.isName e.1.toList = true)
    (htext : n.kind.holdsText = true ∨ n.text = "") (hchildren : ∀ m ∈ n.children, IsPrintable m) :
    IsPrintable n

theorem isName_tag (k : NodeKind) : Markup.isName k.tag.toList = true := by
  cases k <;> decide

def Writable (ns : List Node) : Prop :=
  ∃ ts s, Content ns "" ts ∧ Lexes ts s ∧ StartsWith (· = '<') s

theorem IsPrintable.writable {n : Node} (h : n.IsPrintable) {ns : List Node} (hns : Writable ns) :
    Writable (n :: ns) := by
  induction h generalizing ns with
  | @mk n hkeys htext _ ih =>
    have hblanks : Markup.AreBlank [] := fun c hc => absurd hc List.not_mem_nil
    have hall : ∀ l : List Node, (∀ m ∈ l, m ∈ n.children) → Writable l := by
      intro l hl
      induction l with
      | nil => exact ⟨[], [], .nil, .nil, fun c hc => by cases hc⟩
      | cons m l ihl =>
        obtain ⟨hm, hl⟩ := List.forall_mem_cons.1 hl
        exact ih m hm (ihl hl)
    have hinside : ∃ ts s, Content n.children n.text ts ∧ Lexes ts s := by
      obtain ⟨ts, s, hcontent, hs, hstart⟩ := hall n.children fun _ => id
      by_cases hempty : n.text = ""
      · rw [hempty]
        exact ⟨ts, s, hcontent, hs⟩
      · obtain ⟨piece, hpiece⟩ := Markup.exists_spelled '<' (by decide) n.text.toList
        have hne : n.text.toList ≠ [] := fun hnil => hempty (String.toList_eq_nil_iff.1 hnil)
        have htext := hcontent.text n.text
        have hlexes := Lexes.text hpiece (hpiece.ne_nil hne) hstart hs
        rw [String.append_empty] at htext
        rw [String.ofList_toList] at hlexes
        exact ⟨_, _, htext, hlexes⟩
    obtain ⟨inner, s, hinner, hs⟩ := hinside
    obtain ⟨ts, r, hcontent, hr, hstart⟩ := hns
    obtain ⟨attributes, hattributes⟩ := Markup.exists_attributes hkeys
    have hown : n.OwnText n.text := by
      rw [OwnText]
      split
      case isTrue => rfl
      case isFalse hkind =>
        have hempty := htext.resolve_left hkind
        exact ⟨hempty, by rw [hempty]; rfl⟩
    have hbehind := Lexes.markup (.endTag (isName_tag n.kind) hblanks) hr
    have hwithin := hs.append hbehind (Markup.startsWith_cons rfl)
    exact ⟨_, _, .element hinner hown hcontent, .markup
      (.startTag false (isName_tag n.kind) n.attributes.nodup_keys hattributes hblanks) hwithin,
      Markup.startsWith_cons rfl⟩

/-- An element can be written, and whatever way it is written, it is what is read. -/
theorem root_of_renders {n : Node} (h : n.IsPrintable) :
    (∃ text, n.Renders text) ∧
      ∀ s : Source, n.Renders s.content → ∃ m, s.root = .ok m ∧
        m.withoutLines = (n.withPlatforms s.platforms).withoutLines := by
  constructor
  · have hnone : Writable [] := ⟨[], [], .nil, .nil, fun c hc => by cases hc⟩
    obtain ⟨ts, text, hcontent, hlexes, -⟩ := h.writable hnone
    refine ⟨.ofList text, "", ts, hcontent, rfl, ?_⟩
    rwa [String.toList_ofList]
  · rintro s ⟨layout, ts, hcontent, hlayout, hlexes⟩
    obtain ⟨placed, htokens, hplaced⟩ := Markup.tokens_of_lexes hlexes
    obtain ⟨m, hm, hread⟩ := ofTokens_content (p := s.platforms) hcontent hlayout hplaced
    refine ⟨m, ?_, hread⟩
    rw [Source.root, htokens]
    dsimp only
    rw [hm]

def documentedClass : Node :=
  ⟨.classType, ⟨[("name", "A")], List.nodup_singleton _⟩,
    [⟨.doc, ⟨[("xml:space", "a\x22b")], List.nodup_singleton _⟩, [], "x<y", .empty, 0⟩], "",
    .empty, 0⟩

def documentedSource : Source :=
  ⟨"a", .linuxOnly,
    "<class name='A'>\n<doc xml:space='a\x22b'>x<![CDATA[<]]><!-- z -->&#121;</doc></class>"⟩

theorem renders_documentedClass : documentedClass.Renders documentedSource.content := by
  have hnone : Markup.AreBlank [] := fun c hc => absurd hc List.not_mem_nil
  have hspace : Markup.AreBlank [' '] := by
    intro c hc
    rw [List.mem_singleton.1 hc]
    rfl
  have hletter {close c : Char} (hc : c ∉ ['&', '<', close]) : Markup.Spelled close [c] [c] :=
    Markup.InSequence.cons (Markup.Spelling.itself hc) .nil
  have hname : Markup.InSequence (Markup.Apart Markup.AttributeText) [("name", "A")] _ :=
    .cons (.blanks (List.cons_ne_nil _ _) hspace
      (.quoted rfl hnone hnone (.inr rfl) (hletter (c := 'A') (by decide)))) .nil
  have hquoted : Markup.Spelled '\x27' ['a', '\x22', 'b'] ['a', '\x22', 'b'] :=
    .cons (.itself (by decide)) (.cons (.itself (by decide)) (hletter (by decide)))
  have hpreserve : Markup.InSequence (Markup.Apart Markup.AttributeText)
      [("xml:space", "a\x22b")] _ :=
    .cons (.blanks (List.cons_ne_nil _ _) hspace (.quoted rfl hnone hnone (.inr rfl) hquoted)) .nil
  have hdigits : Numeral.IsWritten 10 'y'.toNat ['1', '2', '1'] :=
    .append (.append (.digit (.lower (d := 1) (by decide))) (.lower (d := 2) (by decide)))
      (.lower (d := 1) (by decide))
  have hcode : Markup.Spelled '<' ['y'] ("&#121;".toList) :=
    Markup.InSequence.cons (Markup.Spelling.reference (c := 'y') (.decimal hdigits)) .nil
  have hcontent : Content [documentedClass] "" _ :=
    .element (.text "\n" (.element (.text "x" (.text "<" (.comment " z " (.text "y" .nil)))) rfl
      .nil)) ⟨rfl, rfl⟩ .nil
  refine ⟨"", _, hcontent, rfl, ?_⟩
  change Lexes _ (String.ofList _).toList
  rw [String.toList_ofList]
  have hstart (tag key value : String) {text : List Char} (htag : Markup.isName tag.toList = true)
      (h : Markup.InSequence (Markup.Apart Markup.AttributeText) [(key, value)] text) :
      Markup.Lexeme (.startTag tag [(key, value)] false) _ :=
    .startTag false htag (List.nodup_singleton _) h hnone
  have hend (tag : String) (htag : Markup.isName tag.toList = true) :
      Markup.Lexeme (.endTag tag) _ := .endTag htag hnone
  have hcdata : Markup.Lexeme (.text (.ofList ['<'])) _ := .cdata (by decide)
  have hcomment : Markup.Lexeme (.comment (.ofList [' ', 'z', ' '])) _ := .comment (by decide)
  have hends := Lexes.markup (hend "doc" rfl) (.markup (hend "class" rfl) .nil)
  have hcut := Lexes.markup hcdata (.markup hcomment
    (.text hcode (List.cons_ne_nil _ _) (Markup.startsWith_cons rfl) hends))
  have hpieces := Lexes.text (hletter (c := 'x') (by decide)) (List.cons_ne_nil _ _)
    (Markup.startsWith_cons rfl) hcut
  have hdoc := Lexes.markup (hstart "doc" "xml:space" _ rfl hpreserve) hpieces
  exact .markup (hstart "class" "name" _ rfl hname) (.text (hletter (c := '\n') (by decide))
    (List.cons_ne_nil _ _) (Markup.startsWith_cons rfl) hdoc)

theorem root_of_documentedClass : documentedClass.IsPrintable ∧
    documentedClass.Renders documentedSource.content ∧
    ∃ m, documentedSource.root = .ok m ∧
      m.withoutLines = (documentedClass.withPlatforms .linuxOnly).withoutLines := by
  have hdoc : ∀ m ∈ documentedClass.children, m.IsPrintable := by
    intro m hm
    rw [List.mem_singleton.1 hm]
    exact .mk (by decide) (.inl rfl) fun m hm => absurd hm List.not_mem_nil
  have hprintable : documentedClass.IsPrintable := .mk (by decide) (.inr rfl) hdoc
  exact ⟨hprintable, renders_documentedClass,
    (root_of_renders hprintable).2 documentedSource renders_documentedClass⟩

end Node
end GirBind

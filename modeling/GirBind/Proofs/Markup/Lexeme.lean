import GirBind.Markup.Scan
import GirBind.Proofs.Markup.Spelling

namespace GirBind

namespace Text

/-- The last character of a closing mark occurs nowhere else in it. -/
def IsClosing (close : List Char) : Prop := ∃ body z, close = body ++ [z] ∧ z ∉ body

end Text

namespace Markup

def AreBlank (cs : List Char) : Prop := ∀ c ∈ cs, Text.isBlank c = true

def StartsWith (P : Char → Prop) (cs : List Char) : Prop := ∀ c ∈ cs.head?, P c

theorem startsWith_cons {P : Char → Prop} {c : Char} {cs : List Char} (h : P c) :
    StartsWith P (c :: cs) := by
  intro d hd
  cases hd
  exact h

inductive AttributeText : String × String → List Char → Prop
  | quoted {key value : String} {left right text : List Char} {quote : Char}
    (hname : isName key.toList = true) (hleft : AreBlank left) (hright : AreBlank right)
    (hquote : quote = '\x22' ∨ quote = '\x27') (hvalue : Spelled quote value.toList text) :
    AttributeText (key, value)
      (key.toList ++ (left ++ '=' :: (right ++ quote :: (text ++ [quote]))))

inductive Apart {α : Type u} (writes : α → List Char → Prop) : α → List Char → Prop
  | blanks {a : α} {before text : List Char} (hne : before ≠ []) (hbefore : AreBlank before)
    (ha : writes a text) : Apart writes a (before ++ text)

def tagEnd (selfClosing : Bool) : List Char := if selfClosing then ['/', '>'] else ['>']

/-- The ways to write a token other than character data. -/
inductive Lexeme : Token → List Char → Prop
  | startTag {name : String} {attributes : List (String × String)} {text blanks : List Char}
    (selfClosing : Bool) (hname : isName name.toList = true)
    (hkeys : (attributes.map Prod.fst).Nodup)
    (htext : InSequence (Apart AttributeText) attributes text) (hblanks : AreBlank blanks) :
    Lexeme (.startTag name attributes selfClosing)
      ('<' :: (name.toList ++ (text ++ (blanks ++ tagEnd selfClosing))))
  | endTag {name : String} {blanks : List Char} (hname : isName name.toList = true)
    (hblanks : AreBlank blanks) :
    Lexeme (.endTag name) ('<' :: '/' :: (name.toList ++ (blanks ++ ['>'])))
  | cdata {content : List Char} (h : ¬ "]]>".toList <:+: content) :
    Lexeme (.text (.ofList content)) ("<![CDATA[".toList ++ (content ++ "]]>".toList))
  | comment {content : List Char} (h : ¬ "-->".toList <:+: content) :
    Lexeme (.comment (.ofList content)) ("<!--".toList ++ (content ++ "-->".toList))
  | instruction {content : List Char} (h : ¬ "?>".toList <:+: content) :
    Lexeme (.declaration (.ofList content)) ("<?".toList ++ (content ++ "?>".toList))
  | doctype {content : List Char} (h : '>' ∉ content) :
    Lexeme (.declaration (.ofList ("DOCTYPE".toList ++ content)))
      ("<!".toList ++ ("DOCTYPE".toList ++ content ++ ">".toList))

/-- The ways to write tokens one behind the other. Character data goes on up to the next one. -/
inductive Lexes : List Token → List Char → Prop
  | nil : Lexes [] []
  | markup {t : Token} {ts : List Token} {first rest : List Char} (ht : Lexeme t first)
    (hts : Lexes ts rest) : Lexes (t :: ts) (first ++ rest)
  | text {value first rest : List Char} {ts : List Token} (hvalue : Spelled '<' value first)
    (hne : first ≠ []) (hnext : StartsWith (· = '<') rest) (hts : Lexes ts rest) :
    Lexes (.text (.ofList value) :: ts) (first ++ rest)

theorem isNameRest_of_isNameStart {c : Char} (h : isNameStart c = true) :
    isNameRest c = true := by
  simp only [isNameStart, isNameRest, Char.isAlphanum, Bool.or_eq_true] at h ⊢
  rcases h with h | h
  · exact .inl (.inl (.inl (.inl h)))
  · exact .inl (.inl (.inr h))

theorem isNameRest_of_isSimpleName {cs : List Char} (h : isSimpleName cs = true) :
    ∀ c ∈ cs, isNameRest c = true := by
  cases cs with
  | nil => cases h
  | cons c cs =>
    rw [isSimpleName, Bool.and_eq_true, List.all_eq_true] at h
    exact List.forall_mem_cons.2 ⟨isNameRest_of_isNameStart h.1, h.2⟩

theorem exists_of_isSimpleName {cs : List Char} (h : isSimpleName cs = true) :
    ∃ c r, cs = c :: r ∧ isNameStart c = true := by
  cases cs with
  | nil => cases h
  | cons c cs =>
    rw [isSimpleName, Bool.and_eq_true] at h
    exact ⟨c, cs, rfl, h.1⟩

theorem isName_cases {cs : List Char} (h : isName cs = true) :
    isSimpleName cs = true ∨ ∃ a b, cs = a ++ ':' :: b ∧ isSimpleName a = true ∧
      isSimpleName b = true := by
  rw [isName] at h
  split at h
  case h_1 => exact .inl h
  case h_2 c r hr =>
    rw [Bool.and_eq_true] at h
    have hc : c = ':' := by
      have hhead := List.head?_dropWhile_not (· != ':') cs
      rw [hr] at hhead
      simpa using hhead
    refine .inr ⟨_, r, ?_, h.1, h.2⟩
    rw [hc] at hr
    rw [← hr, List.takeWhile_append_dropWhile]

theorem mem_of_isName {cs : List Char} (h : isName cs = true) :
    ∀ c ∈ cs, isNameRest c = true ∨ c = ':' := by
  rcases isName_cases h with h | ⟨a, b, rfl, ha, hb⟩
  · exact fun c hc => .inl (isNameRest_of_isSimpleName h c hc)
  · intro c hc
    rcases List.mem_append.1 hc with hc | hc
    · exact .inl (isNameRest_of_isSimpleName ha c hc)
    · rcases List.mem_cons.1 hc with rfl | hc
      · exact .inr rfl
      · exact .inl (isNameRest_of_isSimpleName hb c hc)

theorem exists_of_isName {cs : List Char} (h : isName cs = true) :
    ∃ c r, cs = c :: r ∧ isNameStart c = true := by
  rcases isName_cases h with h | ⟨a, b, rfl, ha, -⟩
  · exact exists_of_isSimpleName h
  · obtain ⟨c, r, rfl, hc⟩ := exists_of_isSimpleName ha
    exact ⟨c, r ++ ':' :: b, rfl, hc⟩

end Markup
end GirBind

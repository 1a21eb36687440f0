import GirBind.Doc.Recognize
import GirBind.Proofs.Doc.ItemSource

namespace GirBind.Doc

/-- Two or more line breaks, up to the last of them. -/
def breaks? (cs : List Char) : Option Found :=
  let breaks := (cs.takeWhile (· == '\n')).length
  if breaks < 2 then none else some (.paragraph, breaks)

/-- The first item in order that a text starts with. Here a break between paragraphs takes all its
line breaks, whatever comes behind them. -/
def token? (lineStart : Bool) (cs : List Char) : Option Found :=
  (marked? lineStart cs).or (breaks? cs)

structure Token where
  item : Item
  start : Nat
  stop : Nat
deriving DecidableEq

def searchFrom (lineStart : Bool) (place : Nat) : List Char → Option Token
  | [] => none
  | c :: cs =>
    match token? lineStart (c :: cs) with
    | some (i, n) => some ⟨i, place, place + n⟩
    | none => searchFrom (c == '\n') (place + 1) cs

def startsLine (text : List Char) (place : Nat) : Bool :=
  place == 0 || text[place - 1]? == some '\n'

/-- The first token from a place on. What is in front of the place still counts as context. -/
def search (text : List Char) (place : Nat) : Option Token :=
  searchFrom (startsLine text place) place (text.drop place)

def between (text : List Char) (start stop : Nat) : List Char :=
  (text.drop start).take (stop - start)

def slice? (text : List Char) (start stop : Nat) : Option (List Char) :=
  if start ≤ stop ∧ stop ≤ text.length then some (between text start stop) else none

/-- Where the part of a text ends that a token replaces, when the given text comes behind the token.
A break in front of a block leaves one line break to the block. If that leaves a single one to the
break, it is not taken. -/
def Token.stop? (t : Token) (rest : List Char) : Option Nat :=
  if t.item = .paragraph ∧ startsBlock rest = true then
    if t.stop - t.start < 3 then none else some (t.stop - 1)
  else
    some t.stop

variable {text cs : List Char} {lineStart : Bool} {i : Item} {n place start stop : Nat}

theorem slice?_eq (hstart : start ≤ stop) (hstop : stop ≤ text.length) :
    slice? text start stop = some (between text start stop) := if_pos ⟨hstart, hstop⟩

theorem between_length (text : List Char) (start : Nat) :
    between text start text.length = text.drop start :=
  List.take_of_length_le (List.length_drop ▸ Nat.le_refl _)

theorem between_self (text : List Char) (start : Nat) : between text start start = [] := by
  rw [between, Nat.sub_self, List.take_zero]

theorem between_append {middle : Nat} (hstart : start ≤ middle) (hstop : middle ≤ stop) :
    between text start middle ++ between text middle stop = between text start stop := by
  have hdrop : text.drop middle = (text.drop start).drop (middle - start) := by
    rw [List.drop_drop, Nat.add_sub_cancel' hstart]
  have hlength : stop - start = (middle - start) + (stop - middle) := by omega
  rw [between, between, between, hdrop, hlength, List.take_add]

theorem drop_eq_between_append (hstop : start ≤ stop) :
    text.drop start = between text start stop ++ text.drop stop := by
  have hdrop : text.drop stop = (text.drop start).drop (stop - start) := by
    rw [List.drop_drop, Nat.add_sub_cancel' hstop]
  rw [between, hdrop, List.take_append_drop]

section

variable {c : Char} (h : text.drop place = c :: cs)
include h

theorem drop_succ_of_drop : text.drop (place + 1) = cs := by
  rw [← List.drop_drop, h]
  rfl

theorem startsLine_succ : startsLine text (place + 1) = (c == '\n') := by
  have hget : text[place]? = some c := by
    rw [← Nat.add_zero place, ← List.getElem?_drop, h]
    rfl
  rw [startsLine, Nat.add_sub_cancel, hget]
  simp

theorem between_succ_of_drop : between text place (place + 1) = [c] := by
  rw [between, h, Nat.add_sub_cancel_left]
  rfl

end

theorem isFaithful_breaks? : IsFaithful breaks? := by
  intro cs i n h
  rw [breaks?] at h
  split at h
  case isTrue => cases h
  case isFalse hbreaks =>
    cases h
    exact starts_breaks (Nat.le_refl _) (Nat.not_lt.1 hbreaks)

theorem starts_token? (h : token? lineStart cs = some (i, n)) : Starts cs i n :=
  (isFaithful_marked? lineStart).or isFaithful_breaks? _ _ _ h

theorem marked?_break (lineStart : Bool) (cs : List Char) : marked? lineStart ('\n' :: cs) =
    if lineStart then bullet? ('\n' :: cs) else none := by
  rw [marked?_eq_lineItem? fun _ => .inl rfl, lineItem?, header?_of_ne (by decide), Option.none_or]

theorem ne_paragraph_of_marked? (h : marked? lineStart cs = some (i, n)) : i ≠ .paragraph := by
  rintro rfl
  obtain ⟨source, rest, rfl, -, breaks, hbreaks, rfl⟩ := isFaithful_marked? lineStart _ _ _ h
  obtain ⟨breaks, rfl⟩ := Nat.exists_eq_add_of_le' hbreaks
  rw [List.replicate_succ, List.cons_append, marked?_break, bullet?] at h
  split at h
  case isTrue =>
    split at h
    case h_1 =>
      split at h
      case isTrue => cases h
      case isFalse => cases h
    case h_2 => cases h
  case isFalse => cases h

theorem item?_of_token?_eq_none (h : token? lineStart cs = none) : item? lineStart cs = none := by
  obtain ⟨hmarked, hbreaks⟩ := Option.or_eq_none_iff.1 h
  rw [item?_eq_or, hmarked, Option.none_or, paragraph?]
  rw [breaks?] at hbreaks
  split at hbreaks
  case isTrue hlength => exact if_pos hlength
  case isFalse => cases hbreaks

/-- The item at the start of a text is what the token there replaces. -/
theorem item?_of_token? (place : Nat) (h : token? lineStart cs = some (i, n)) :
    item? lineStart cs = ((⟨i, place, place + n⟩ : Token).stop? (cs.drop n)).map
      fun stop => (i, stop - place) := by
  rw [item?_eq_or, Token.stop?]
  rcases Option.or_eq_some_iff.1 h with hmarked | ⟨hmarked, hbreaks⟩
  · rw [hmarked, if_neg fun hblock => ne_paragraph_of_marked? hmarked hblock.1, Option.map_some,
      Nat.add_sub_cancel_left]
    rfl
  · rw [breaks?] at hbreaks
    split at hbreaks
    case isTrue => cases hbreaks
    case isFalse hlength =>
      cases hbreaks
      rw [hmarked, Option.none_or, paragraph?, if_neg hlength]
      dsimp only
      simp only [true_and, Nat.add_sub_cancel_left]
      split
      case isTrue =>
        split
        case isTrue => rfl
        case isFalse hthree =>
          rw [Option.map_some]
          congr 2
          omega
      case isFalse => rw [Option.map_some, Nat.add_sub_cancel_left]

def segmentsFrom (text : List Char) (place : Nat) : List Segment :=
  Segment.ofText (startsLine text place) (text.drop place)

theorem segmentsFrom_length (text : List Char) : segmentsFrom text text.length = [] := by
  rw [segmentsFrom, List.drop_length, Segment.ofText]

theorem segmentsFrom_plain {c : Char} (h : text.drop place = c :: cs)
    (hitem : item? (startsLine text place) (c :: cs) = none) :
    segmentsFrom text place = .plain c :: segmentsFrom text (place + 1) := by
  rw [segmentsFrom, segmentsFrom, h, Segment.ofText, hitem, startsLine_succ h, drop_succ_of_drop h]

theorem getLast?_between (hstart : start < stop) (hstop : stop ≤ text.length) :
    ((between text start stop).getLast? == some '\n') = startsLine text stop := by
  have hlast : (between text start stop).getLast? = text[stop - 1]? := by
    have hget : text[stop - 1]? = some text[stop - 1] := List.getElem?_eq_getElem _
    have hplace : start + (stop - start - 1) = stop - 1 := by omega
    rw [between, List.getLast?_take, if_neg (by omega), List.getElem?_drop, hplace, hget,
      Option.some_or]
  rw [hlast, startsLine, beq_false_of_ne (Nat.ne_of_gt (Nat.zero_lt_of_lt hstart)), Bool.false_or]

theorem segmentsFrom_item (hstart : start < stop) (hstop : stop ≤ text.length)
    (hitem : item? (startsLine text start) (text.drop start) = some (i, stop - start)) :
    segmentsFrom text start = .item i (between text start stop) :: segmentsFrom text stop := by
  have hdrop : text.drop start = text[start] :: text.drop (start + 1) :=
    List.drop_eq_getElem_cons _
  have hsource : text[start] :: (text.drop (start + 1)).take (stop - start - 1) =
      between text start stop := by
    have hlength : stop - start = stop - start - 1 + 1 := by omega
    rw [between, hdrop, hlength]
    rfl
  have hrest : (text.drop (start + 1)).drop (stop - start - 1) = text.drop stop := by
    rw [List.drop_drop]
    congr 1
    omega
  rw [segmentsFrom, hdrop, Segment.ofText, ← hdrop, hitem]
  dsimp only
  rw [hsource, hrest, getLast?_between hstart hstop]
  rfl

structure Token.IsAt (text : List Char) (t : Token) : Prop where
  start_lt : t.start < t.stop
  stop_le : t.stop ≤ text.length
  found : token? (startsLine text t.start) (text.drop t.start) = some (t.item, t.stop - t.start)
  source : t.item.HasSource (between text t.start t.stop)

theorem segmentsFrom_of_searchFrom_eq_none (hcs : text.drop place = cs)
    (h : searchFrom (startsLine text place) place cs = none) :
    segmentsFrom text place = cs.map .plain := by
  induction cs generalizing place with
  | nil => rw [segmentsFrom, hcs, Segment.ofText, List.map_nil]
  | cons c cs ih =>
    rw [searchFrom] at h
    split at h
    case h_1 => cases h
    case h_2 htoken =>
      rw [← startsLine_succ hcs] at h
      rw [segmentsFrom_plain hcs (item?_of_token?_eq_none htoken), ih (drop_succ_of_drop hcs) h,
        List.map_cons]

theorem of_searchFrom_eq_some {t : Token} (hcs : text.drop place = cs)
    (h : searchFrom (startsLine text place) place cs = some t) :
    place ≤ t.start ∧ t.IsAt text ∧ segmentsFrom text place =
      (between text place t.start).map .plain ++ segmentsFrom text t.start := by
  induction cs generalizing place with
  | nil => cases h
  | cons c cs ih =>
    rw [searchFrom] at h
    split at h
    case h_1 i n htoken =>
      cases h
      obtain ⟨source, rest, hsource, rfl, hitem⟩ := starts_token? htoken
      have hlength := congrArg List.length (hcs.trans hsource)
      rw [List.length_drop, List.length_append] at hlength
      have hpos := List.length_pos_iff.2 hitem.ne_nil
      refine ⟨Nat.le_refl _, ⟨by dsimp only; omega, by dsimp only; omega, ?_, ?_⟩, ?_⟩
      · rw [hcs, Nat.add_sub_cancel_left]
        exact htoken
      · rw [between, hcs, Nat.add_sub_cancel_left, hsource, List.take_left]
        exact hitem
      · rw [between_self, List.map_nil, List.nil_append]
    case h_2 htoken =>
      rw [← startsLine_succ hcs] at h
      obtain ⟨hplace, ht, hsegments⟩ := ih (drop_succ_of_drop hcs) h
      refine ⟨Nat.le_of_succ_le hplace, ht, ?_⟩
      rw [segmentsFrom_plain hcs (item?_of_token?_eq_none htoken), hsegments,
        ← between_append (Nat.le_succ place) hplace, between_succ_of_drop hcs]
      rfl

theorem segmentsFrom_of_search_eq_none (h : search text place = none) :
    segmentsFrom text place = (text.drop place).map .plain :=
  segmentsFrom_of_searchFrom_eq_none rfl h

theorem of_search_eq_some {t : Token} (h : search text place = some t) :
    place ≤ t.start ∧ t.IsAt text ∧ segmentsFrom text place =
      (between text place t.start).map .plain ++ segmentsFrom text t.start :=
  of_searchFrom_eq_some rfl h

namespace Token

variable {t : Token}

theorem stop?_eq_some {rest : List Char} (h : t.stop? rest = some stop) :
    stop = t.stop ∨ t.item = .paragraph ∧ 3 ≤ t.stop - t.start ∧ stop = t.stop - 1 := by
  rw [stop?] at h
  split at h
  case isTrue hblock =>
    split at h
    case isTrue => cases h
    case isFalse hthree =>
      cases h
      exact .inr ⟨hblock.1, Nat.not_lt.1 hthree, rfl⟩
  case isFalse =>
    cases h
    exact .inl rfl

theorem IsAt.item?_eq (ht : t.IsAt text) :
    item? (startsLine text t.start) (text.drop t.start) =
      (t.stop? (text.drop t.stop)).map fun stop => (t.item, stop - t.start) := by
  have hstop : t.start + (t.stop - t.start) = t.stop :=
    Nat.add_sub_cancel' (Nat.le_of_lt ht.start_lt)
  have hitem := item?_of_token? t.start ht.found
  rwa [hstop, List.drop_drop, hstop] at hitem

theorem IsAt.stop?_bounds (ht : t.IsAt text) {rest : List Char} (h : t.stop? rest = some stop) :
    t.start < stop ∧ stop ≤ t.stop := by
  have := ht.start_lt
  rcases stop?_eq_some h with rfl | ⟨-, hthree, rfl⟩
  · omega
  · omega

/-- A token that is taken is an item on what it replaces. -/
theorem IsAt.segmentsFrom_taken (ht : t.IsAt text)
    (h : t.stop? (text.drop t.stop) = some stop) :
    segmentsFrom text t.start = .item t.item (between text t.start stop) ::
      segmentsFrom text stop := by
  obtain ⟨hstart, hstop⟩ := ht.stop?_bounds h
  have hitem := ht.item?_eq
  rw [h] at hitem
  exact segmentsFrom_item hstart (hstop.trans ht.stop_le) hitem

theorem IsAt.segmentsFrom_untaken (ht : t.IsAt text)
    (h : t.stop? (text.drop t.stop) = none) :
    segmentsFrom text t.start =
      (between text t.start (t.start + 1)).map .plain ++ segmentsFrom text (t.start + 1) := by
  have hlength : t.start < text.length := Nat.lt_of_lt_of_le ht.start_lt ht.stop_le
  have hdrop : text.drop t.start = text[t.start] :: text.drop (t.start + 1) :=
    List.drop_eq_getElem_cons _
  have hitem := ht.item?_eq
  rw [h, hdrop] at hitem
  rw [segmentsFrom_plain hdrop hitem, between_succ_of_drop hdrop]
  rfl

end Token

end GirBind.Doc

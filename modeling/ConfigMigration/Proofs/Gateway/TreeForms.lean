import ConfigMigration.Gateway.Client
import ConfigMigration.Proofs.Gateway.AnswerFrame
import ConfigMigration.Proofs.Json.Depth
import ConfigMigration.Proofs.Json.Value

/-!
# The two forms of a tree

A gateway sends a tree as a JSON value or as a string with the base 64 of a text of it.  Both give the same snapshot,
whatever stands around the tree in the answer (`tree_forms_agree`), as long as the value is not nested too deep for
what the answer leaves of the reader's levels.  A deeper tree comes through as a string only
(`deep_tree_forms_differ`).
-/

namespace ConfigMigration

open Json (Decoder Document Fault Spelling Term)

/-! ### Strings of base 64 -/

namespace Text

private theorem dropWhile_isBlank_append {l m : List Char} (hl : ∀ c ∈ l, isBlank c = true)
    (hm : ∀ c ∈ m.head?, isBlank c = false) : (l ++ m).dropWhile isBlank = m := by
  rw [List.dropWhile_append_of_pos hl]
  cases m with
  | nil => rfl
  | cons c m => exact List.dropWhile_cons_of_neg (by simp [hm c rfl])

/-- The blanks around a text without blanks are what `trim` takes away. -/
theorem trim_of_blanks {front cs back : List Char} (hfront : ∀ c ∈ front, isBlank c = true)
    (hback : ∀ c ∈ back, isBlank c = true) (hcs : ∀ c ∈ cs, isBlank c = false) :
    trim (String.ofList (front ++ cs ++ back)) = String.ofList cs := by
  rw [trim, String.toList_ofList, List.append_assoc]
  cases cs with
  | nil =>
    have hnil := dropWhile_isBlank_append (m := []) (List.forall_mem_append.mpr ⟨hfront, hback⟩) nofun
    rw [List.append_nil] at hnil
    rw [List.nil_append, hnil]
    rfl
  | cons c cs =>
    have hstart : ∀ b ∈ (c :: cs ++ back).head?, isBlank b = false := by
      intro b hb
      cases hb
      exact hcs c (List.mem_cons_self ..)
    have hend : ∀ b ∈ (c :: cs).reverse.head?, isBlank b = false := fun b hb =>
      hcs b (List.mem_reverse.mp (List.mem_of_mem_head? hb))
    have hback : ∀ b ∈ back.reverse, isBlank b = true := fun b hb => hback b (List.mem_reverse.mp hb)
    rw [dropWhile_isBlank_append hfront hstart, trimRight, List.reverse_append, dropWhile_isBlank_append hback hend,
      List.reverse_reverse]

end Text

namespace Base64

theorem isBlank_symbol {n : Nat} (h : n < 64) : Text.isBlank (symbol n) = false :=
  (by decide : ∀ m < 64, Text.isBlank (symbol m) = false) n h

theorem isBlank_of_mem_encode (bytes : List UInt8) : ∀ c ∈ encode bytes, Text.isBlank c = false := by
  have hpadding : Text.isBlank '=' = false := by decide
  fun_induction encode bytes with
  | case1 => exact List.forall_mem_nil _
  | case2 a =>
    have ha := a.toNat_lt
    simp only [List.forall_mem_cons]
    exact ⟨isBlank_symbol (by omega), isBlank_symbol (by omega), hpadding, hpadding, List.forall_mem_nil _⟩
  | case3 a b =>
    have ha := a.toNat_lt
    have hb := b.toNat_lt
    simp only [List.forall_mem_cons]
    exact ⟨isBlank_symbol (by omega), isBlank_symbol (by omega), isBlank_symbol (by omega), hpadding,
      List.forall_mem_nil _⟩
  | case4 a b c rest ih =>
    have ha := a.toNat_lt
    have hb := b.toNat_lt
    have hc := c.toNat_lt
    simp only [List.forall_mem_cons]
    exact ⟨isBlank_symbol (by omega), isBlank_symbol (by omega), isBlank_symbol (by omega), isBlank_symbol (by omega),
      ih⟩

end Base64

namespace Message

/-- The base 64 of a text between two others. -/
def encodingOf (text : String) (front back : List Char) : String :=
  String.ofList (front ++ Base64.encode text.toUTF8.data.toList ++ back)

/-- The strings that hold a tree: the base 64 of one of its texts, perhaps between blanks. -/
inductive Encodes (tree : Json) : String → Prop
  | intro {text : String} {front back : List Char} (htext : Json.parse text = .ok tree)
    (hfront : ∀ c ∈ front, Text.isBlank c = true) (hback : ∀ c ∈ back, Text.isBlank c = true) :
    Encodes tree (encodingOf text front back)

private theorem fromUTF8?_bytes (s : String) : String.fromUTF8? ⟨s.toUTF8.data.toList.toArray⟩ = some s := by
  rw [Array.toArray_toList, String.fromUTF8?, String.toUTF8_eq_toByteArray, dif_pos s.isValidUTF8]
  rfl

theorem treeOf_of_encodes {tree : Json} {s : String} (h : Encodes tree s) : treeOf (.string s) = .ok tree := by
  obtain ⟨htext, hfront, hback⟩ := h
  rw [treeOf, encodingOf, Text.trim_of_blanks hfront hback (Base64.isBlank_of_mem_encode _), String.toList_ofList,
    Base64.decode_encode]
  simp only [fromUTF8?_bytes, Option.map_some, htext]

/-! ### The tree -/

/-- A term that does not spell null is read like any value, or not at all if there are too few levels. -/
theorem optional_of_spells {tree : Json} (hnull : tree ≠ .null) {t : Term} (ht : t.Spells tree) (levels : Nat) :
    Decoder.optional .value levels t = if t.depth ≤ levels then .ok (some tree) else .error .malformed := by
  obtain ⟨budget, ht⟩ := ht
  have hvalue : Decoder.optional .value levels t = some <$> Decoder.value levels t := by
    cases t with
    | null => exact absurd (Except.ok.inj ht).symm hnull
    | _ => rfl
  rw [hvalue, Decoder.value_eq_of_ok ht levels]
  split <;> rfl

theorem treeOf_of_text?_eq_none {tree : Json} (h : tree.text? = none) : treeOf tree = .ok tree := by
  cases tree with
  | string s => cases h
  | _ => rfl

end Message

/-- An answer that points nowhere else is the answer to a request. -/
theorem Network.request_of_redirection?_eq_none {ν : Type} [Network ν] {network : ν} {r : GatewayRequest}
    {answer : GatewayAnswer} (h : (exchange network r).1 = some answer) (hfinal : answer.redirection? r = none) :
    (request network r).1 = some answer := by
  rw [request, redirectionLimit, exchangeUpTo]
  simp only [h, Option.bind_some, hfinal]

namespace GatewayStore

open Message (AnswerFrame Encodes IsEmptyNotification IsEmptyUpdate RecordFrame encodingOf treeLevels treeOf
  valuesDecoder)

/-- Values that stand for the same trees give the same snapshot. -/
theorem snapshotOf_congr {values others : List (Option Json)}
    (h : values.map (Option.map treeOf) = others.map (Option.map treeOf)) (target : String) :
    snapshotOf target values = snapshotOf target others := by
  have hfirst (values : List (Option Json)) :
      (values.findSome? id).map treeOf = (values.map (Option.map treeOf)).findSome? id := by
    rw [List.findSome?_map, List.map_findSome?]
    rfl
  have htrees : (values.findSome? id).map treeOf = (others.findSome? id).map treeOf := by rw [hfirst, h, hfirst]
  unfold snapshotOf
  cases hvalue : values.findSome? id with
  | none =>
    cases hother : others.findSome? id with
    | none => rfl
    | some other => rw [hvalue, hother] at htrees; cases htrees
  | some value =>
    cases hother : others.findSome? id with
    | none => rw [hvalue, hother] at htrees; cases htrees
    | some other =>
      rw [hvalue, hother, Option.map_some, Option.map_some, Option.some.injEq] at htrees
      dsimp only
      rw [htrees]

/-- What a Get makes of the text of an answer. -/
def snapshotIn (target body : String) : Except StoreError Snapshot :=
  (valuesDecoder.decode body).mapError (.decode .get) >>= snapshotOf target

/-- What follows the answer is looked at when the answer has been read. -/
theorem snapshotIn_of_document {body : String} {t : Term} {trailing : Bool}
    (h : Document.ofChars body.toList = ⟨t, trailing⟩) (target : String) :
    snapshotIn target body = (valuesDecoder Json.maxDepth t).mapError (.decode .get) >>= fun values =>
      if trailing then .error (.decode .get .malformed) else snapshotOf target values := by
  rw [snapshotIn, Decoder.decode, h]
  dsimp only
  cases valuesDecoder Json.maxDepth t with
  | error e => rfl
  | ok values => cases trailing <;> rfl

section Frames

variable {frame : AnswerFrame} {t : Term} {body : String}

/-- The first value of an answer that can be read decides. -/
theorem snapshotIn_fill_of_ok (h : frame.IsReadable) (hbody : Document.ofChars body.toList = ⟨frame.fill t, false⟩)
    {value tree : Json} (hvalue : Decoder.optional .value treeLevels t = .ok (some value))
    (htree : treeOf value = .ok tree) (target : String) : snapshotIn target body = .ok (.ofJson target tree) := by
  obtain ⟨front, back, hfront, hvalues⟩ := Message.valuesDecoder_fill h
  have hnone : front.findSome? id = none := List.findSome?_eq_none_iff.mpr hfront
  have hfirst : (front ++ some value :: back).findSome? id = some value := by
    rw [List.findSome?_append, hnone]
    rfl
  rw [snapshotIn_of_document hbody, hvalues, hvalue]
  change snapshotOf target (front ++ some value :: back) = _
  rw [snapshotOf, hfirst]
  dsimp only
  rw [htree]

theorem snapshotIn_fill_of_error (h : frame.IsReadable)
    (hbody : Document.ofChars body.toList = ⟨frame.fill t, false⟩) {e : Fault}
    (hvalue : Decoder.optional .value treeLevels t = .error e) (target : String) :
    snapshotIn target body = .error (.decode .get e) := by
  obtain ⟨front, back, -, hvalues⟩ := Message.valuesDecoder_fill h
  rw [snapshotIn_of_document hbody, hvalues, hvalue]
  rfl

/-- Terms that stand for the same tree give the same snapshot in every answer, or fail alike. -/
theorem snapshotIn_congr {u : Term} {other : String} {trailing : Bool}
    (h : Option.map treeOf <$> Decoder.optional .value treeLevels t =
      Option.map treeOf <$> Decoder.optional .value treeLevels u)
    (hbody : Document.ofChars body.toList = ⟨frame.fill t, trailing⟩)
    (hother : Document.ofChars other.toList = ⟨frame.fill u, trailing⟩) (target : String) :
    snapshotIn target body = snapshotIn target other := by
  rw [snapshotIn_of_document hbody, snapshotIn_of_document hother]
  have hmapError {α β : Type} (f : α → β) (x : Except Fault α) :
      f <$> x.mapError (StoreError.decode .get) = (f <$> x).mapError (.decode .get) := by
    cases x <;> rfl
  have hvalues : List.map (Option.map treeOf) <$>
        (valuesDecoder Json.maxDepth (frame.fill t)).mapError (StoreError.decode .get) =
      List.map (Option.map treeOf) <$>
        (valuesDecoder Json.maxDepth (frame.fill u)).mapError (StoreError.decode .get) := by
    rw [hmapError, hmapError, Message.valuesDecoder_fill_congr h frame]
  refine bind_eq_bind_of_map_eq hvalues fun values others htrees => ?_
  rw [snapshotOf_congr htrees]

end Frames

/-! ### Answers to a Get -/

section Answers

variable {ν : Type} [Network ν]

/-- Whether the gateway accepts a Get and answers it with a text. -/
def AnswersGet (g : GatewayStore ν) (target : String) (path : Path) (body : String) : Prop :=
  ∃ answer, (Network.request g.network ⟨g.endpoint .get, some (Message.ofGet target path)⟩).1 = some answer ∧
    answer.isSuccess = true ∧ answer.body = some body

theorem get_of_answersGet {g : GatewayStore ν} {target : String} {path : Path} {body : String}
    (h : g.AnswersGet target path body) : (g.get target path).result = snapshotIn target body := by
  obtain ⟨answer, hanswer, hsuccess, hbody⟩ := h
  change (g.readAnswer .get target valuesDecoder
    (Network.request g.network ⟨g.endpoint .get, some (Message.ofGet target path)⟩).1 >>= snapshotOf target) = _
  rw [hanswer, readAnswer, hsuccess, hbody]
  rfl

section Forms

variable {tree : Json} {t : Term} {s : String} {frame : AnswerFrame} {inline encoded target : String} {path : Path}
  {g g' : GatewayStore ν}

/-- A string that encodes a tree comes through, however deep the tree is. -/
theorem get_of_encodes (hs : Encodes tree s) (hframe : frame.IsReadable)
    (hencoded : Document.ofChars encoded.toList = ⟨frame.fill (.string (.text s)), false⟩)
    (hg : g.AnswersGet target path encoded) : (g.get target path).result = .ok (.ofJson target tree) := by
  rw [get_of_answersGet hg]
  exact snapshotIn_fill_of_ok hframe hencoded rfl (Message.treeOf_of_encodes hs) target

/-- A value comes through if it is not deeper than the answer leaves levels for it. -/
theorem get_of_spells (hnull : tree ≠ .null) (htext : tree.text? = none) (ht : t.Spells tree)
    (hframe : frame.IsReadable) (hinline : Document.ofChars inline.toList = ⟨frame.fill t, false⟩)
    (hg : g.AnswersGet target path inline) :
    (g.get target path).result =
      if t.depth ≤ treeLevels then .ok (.ofJson target tree) else .error (.decode .get .malformed) := by
  rw [get_of_answersGet hg]
  have hvalue := Message.optional_of_spells hnull ht treeLevels
  split
  · rename_i hdepth
    rw [if_pos hdepth] at hvalue
    exact snapshotIn_fill_of_ok hframe hinline hvalue (Message.treeOf_of_text?_eq_none htext) target
  · rename_i hdepth
    rw [if_neg hdepth] at hvalue
    exact snapshotIn_fill_of_error hframe hinline hvalue target

end Forms

end Answers

/-! ### A gateway with one answer -/

/-- An answer with a value behind a notification without updates and an update without a tree. -/
def answerWith (value : Json) : Json :=
  .object [("notification", .array [.object [("timestamp", .string "7")],
    .object [("update", .array [.object [("val", .object [])], .object [("val", .object [("jsonVal", value)])]])]])]

/-- What stands around the value in `answerWith`. -/
def sampleFrame : AnswerFrame where
  answer := .object [] [] none
  notifications := ⟨[.object [(.text "timestamp", .string (.text "7"))] none], [], none⟩
  notification := .object [] [] none
  updates := ⟨[.object [(.text "val", .object [] none)] none], [], none⟩
  update := .object [] [] none
  value := .object [] [] none

theorem isReadable_sampleFrame : sampleFrame.IsReadable := by
  have hplain (name : String) : (RecordFrame.object [] [] none).IsReadable name :=
    .object (List.forall_mem_nil _) (List.forall_mem_nil _)
  have hnotification : IsEmptyNotification (.object [(.text "timestamp", .string (.text "7"))] none) :=
    .missing (.object (List.forall_mem_singleton.mpr ⟨"timestamp", rfl, by decide, rfl⟩))
  have hupdate : IsEmptyUpdate (.object [(.text "val", .object [] none)] none) :=
    .missing (hplain "val") (.object (List.forall_mem_nil _))
  exact
    { answer := hplain "notification"
      notifications := ⟨List.forall_mem_singleton.mpr hnotification, List.forall_mem_nil _, rfl⟩
      notification := hplain "update"
      updates := ⟨List.forall_mem_singleton.mpr hupdate, List.forall_mem_nil _, rfl⟩
      update := hplain "val"
      value := hplain "jsonVal" }

theorem ofChars_answerWith (value : Json) :
    Document.ofChars (answerWith value).render.toList = ⟨sampleFrame.fill value.toTerm, false⟩ := by
  rw [Json.render, String.toList_ofList, Json.ofChars_write]
  rfl

/-- A gateway that answers the next request with a value in `answerWith`. -/
def answering (value : Json) : GatewayStore CannedNetwork where
  address := "http://127.0.0.1:5150"
  network := { answers := [{ status := 200, body := some (answerWith value).render }] }

theorem answersGet_answering (target : String) (path : Path) (value : Json) :
    (answering value).AnswersGet target path (answerWith value).render := by
  have haddress : WebAddress.parse? ((answering value).endpoint .get) =
      some ⟨false, "127.0.0.1", 5150, "/gnmi/get"⟩ := by
    change WebAddress.parse? ("http://127.0.0.1:5150" ++ "/gnmi/" ++ "get") = _
    decide +kernel
  refine ⟨{ status := 200, body := some (answerWith value).render }, Network.request_of_redirection?_eq_none ?_ rfl,
    rfl, rfl⟩
  change (CannedNetwork.exchange (answering value).network _).1 = _
  rw [CannedNetwork.exchange, haddress]
  rfl

/-! ### Both forms -/

/-- A tree that is neither null nor a string gives the same snapshot as a value and as a string, whatever stands
around it in the answer; where the answer cannot be read, both fail alike.  As a value the tree must not be deeper
than the answer leaves levels for it. -/
theorem tree_forms_agree {ν : Type} [Network ν] {tree : Json} {t : Term} {s : String} {frame : AnswerFrame}
    {inline encoded target : String} {path : Path} {g g' : GatewayStore ν} {trailing : Bool} (hnull : tree ≠ .null)
    (htext : tree.text? = none) (ht : t.Spells tree) (hdepth : t.depth ≤ treeLevels) (hs : Encodes tree s)
    (hinline : Document.ofChars inline.toList = ⟨frame.fill t, trailing⟩)
    (hencoded : Document.ofChars encoded.toList = ⟨frame.fill (.string (.text s)), trailing⟩)
    (hg : g.AnswersGet target path inline) (hg' : g'.AnswersGet target path encoded) :
    (g.get target path).result = (g'.get target path).result ∧
      (frame.IsReadable → trailing = false → (g.get target path).result = .ok (.ofJson target tree)) := by
  constructor
  · have hvalue := Message.optional_of_spells hnull ht treeLevels
    rw [if_pos hdepth] at hvalue
    have htree : Option.map treeOf <$> Decoder.optional .value treeLevels t =
        Option.map treeOf <$> Decoder.optional .value treeLevels (.string (.text s)) := by
      have hstring : Decoder.optional .value treeLevels (.string (.text s)) = .ok (some (.string s)) := rfl
      have hforms : treeOf tree = treeOf (.string s) := by
        rw [Message.treeOf_of_text?_eq_none htext, Message.treeOf_of_encodes hs]
      rw [hvalue, hstring]
      exact congrArg (fun value => Except.ok (some value)) hforms
    rw [get_of_answersGet hg, get_of_answersGet hg', snapshotIn_congr htree hinline hencoded]
  · rintro hframe rfl
    rw [get_of_spells hnull htext ht hframe hinline hg, if_pos hdepth]

/-- A tree that comes as a value, and as the base 64 of its text between blanks. -/
theorem forms_of_object_agree :
    ((answering (.object [("id", .string "lab")])).get "v2" .root).result =
        ((answering (.string (encodingOf (Json.object [("id", .string "lab")]).render [' '] ['\n']))).get
          "v2" .root).result ∧
      ((answering (.object [("id", .string "lab")])).get "v2" .root).result =
        .ok (.ofJson "v2" (.object [("id", .string "lab")])) := by
  have hnull : Json.object [("id", .string "lab")] ≠ .null := nofun
  have hreadable (levels : Nat) : Json.IsReadable (levels + 1) (.object [("id", .string "lab")]) :=
    .object (List.forall_mem_singleton.mpr (.string levels "lab"))
  have hspells : (Json.object [("id", .string "lab")]).toTerm.Spells (.object [("id", .string "lab")]) :=
    ⟨1, Json.value_toTerm (hreadable 0)⟩
  have hdepth : (Json.object [("id", .string "lab")]).toTerm.depth ≤ treeLevels := by decide
  have hencodes : Encodes (.object [("id", .string "lab")])
      (encodingOf (Json.object [("id", .string "lab")]).render [' '] ['\n']) :=
    .intro (Json.parse_render (hreadable 126)) (List.forall_mem_singleton.mpr rfl) (List.forall_mem_singleton.mpr rfl)
  have hinline := ofChars_answerWith (.object [("id", .string "lab")])
  have hencoded := ofChars_answerWith (.string (encodingOf (Json.object [("id", .string "lab")]).render [' '] ['\n']))
  have hagree := tree_forms_agree hnull rfl hspells hdepth hencodes hinline hencoded
    (answersGet_answering "v2" .root _) (answersGet_answering "v2" .root _)
  exact ⟨hagree.1, hagree.2 isReadable_sampleFrame rfl⟩

/-! ### Deep trees -/

/-- Arrays inside one another. -/
def nested : Nat → Json
  | 0 => .array []
  | n + 1 => .array [nested n]

theorem isReadable_nested {n levels : Nat} (h : n < levels) : Json.IsReadable levels (nested n) := by
  induction n generalizing levels with
  | zero =>
    obtain ⟨levels, rfl⟩ := Nat.exists_eq_add_one_of_ne_zero (Nat.ne_of_gt h)
    exact .array (List.forall_mem_nil _)
  | succ n ih =>
    obtain ⟨levels, rfl⟩ := Nat.exists_eq_add_one_of_ne_zero (Nat.ne_of_gt (Nat.zero_lt_of_lt h))
    exact .array (List.forall_mem_singleton.mpr (ih (Nat.lt_of_succ_lt_succ h)))

theorem ordered_nested (n : Nat) : (nested n).ordered = nested n := by
  induction n with
  | zero => rfl
  | succ n ih => rw [nested, Json.ordered, Json.orderedItems, Json.orderedItems, ih]

theorem depth_nested (n : Nat) : (nested n).toTerm.depth = n + 1 := by
  induction n with
  | zero => rfl
  | succ n ih =>
    rw [nested, Json.toTerm, Json.itemTerms, Json.itemTerms, Term.depth, Term.itemsDepth, Term.itemsDepth, ih,
      Nat.max_zero]

/-- A tree of 122 levels comes through as a string, but not as a value. -/
theorem deep_tree_forms_differ :
    ¬ ∀ (tree : Json) (t : Term) (s : String) (frame : AnswerFrame) (inline encoded target : String) (path : Path)
      (g g' : GatewayStore CannedNetwork), tree ≠ .null → tree.text? = none → t.Spells tree → Encodes tree s →
      frame.IsReadable → Document.ofChars inline.toList = ⟨frame.fill t, false⟩ →
      Document.ofChars encoded.toList = ⟨frame.fill (.string (.text s)), false⟩ →
      g.AnswersGet target path inline → g'.AnswersGet target path encoded →
      (g.get target path).result = (g'.get target path).result := by
  intro h
  -- 121 arrays around an empty one fit into a text of their own, but not into an answer
  have hnull : nested 121 ≠ .null := nofun
  have hreadable {levels : Nat} (hlevels : 121 < levels) :
      Decoder.value levels (nested 121).toTerm = .ok (nested 121) :=
    (Json.value_toTerm (isReadable_nested hlevels)).trans (congrArg _ (ordered_nested 121))
  have hspells : (nested 121).toTerm.Spells (nested 121) := ⟨122, hreadable (by decide)⟩
  have hencodes : Encodes (nested 121) (encodingOf (nested 121).render [] []) :=
    .intro ((Decoder.decode_render ..).trans (hreadable (by decide))) (List.forall_mem_nil _) (List.forall_mem_nil _)
  have hinline := ofChars_answerWith (nested 121)
  have hencoded := ofChars_answerWith (.string (encodingOf (nested 121).render [] []))
  have hg := answersGet_answering "v1" .root (nested 121)
  have hg' := answersGet_answering "v1" .root (.string (encodingOf (nested 121).render [] []))
  have hsame := h _ _ _ _ _ _ _ _ _ _ hnull rfl hspells hencodes isReadable_sampleFrame hinline hencoded hg hg'
  rw [get_of_spells hnull rfl hspells isReadable_sampleFrame hinline hg, depth_nested, if_neg (by decide),
    get_of_encodes hencodes isReadable_sampleFrame hencoded hg'] at hsame
  cases hsame

end GatewayStore

end ConfigMigration

import ConfigMigration.Proofs.Gateway.Frame

/-!
# Around the tree of an answer

An answer to a Get lists notifications, which list updates, and the tree stands in the value of an update.  An answer
frame is what stands around the tree on all these levels.  Where it can be read, and no tree stands in front, the tree
is the first value that is read (`valuesDecoder_fill`); and two terms that are read alike in the place of the tree are
read alike in every frame (`valuesDecoder_fill_congr`).
-/

namespace ConfigMigration.Message

open Json (Decoder Fault Term)

/-- What stands around the tree in an answer to a Get. -/
structure AnswerFrame where
  /-- What stands around the notifications. -/
  answer : RecordFrame
  /-- The other notifications. -/
  notifications : ListFrame
  /-- What stands around the updates of the notification. -/
  notification : RecordFrame
  /-- The other updates. -/
  updates : ListFrame
  /-- What stands around the value of the update. -/
  update : RecordFrame
  /-- What stands around the tree. -/
  value : RecordFrame

namespace AnswerFrame

/-- The update with a term in the place of the tree. -/
def fillUpdate (frame : AnswerFrame) (t : Term) : Term :=
  frame.update.fill "val" (frame.value.fill "jsonVal" t)

/-- The notification with a term in the place of the tree. -/
def fillNotification (frame : AnswerFrame) (t : Term) : Term :=
  frame.notification.fill "update" (frame.updates.fill (frame.fillUpdate t))

/-- The answer with a term in the place of the tree. -/
def fill (frame : AnswerFrame) (t : Term) : Term :=
  frame.answer.fill "notification" (frame.notifications.fill (frame.fillNotification t))

end AnswerFrame

/-! ### Reading -/

/-- Reads the value of an update. -/
def updateDecoder : Decoder (Option Json) :=
  member "val" none valueDecoder

/-- Reads the values of a notification. -/
def notificationDecoder : Decoder (List (Option Json)) :=
  member "update" (some []) (.list updateDecoder)

theorem valuesDecoder_eq (depth : Nat) (t : Term) :
    valuesDecoder depth t =
      List.flatten <$> member "notification" (some []) (.list notificationDecoder) depth t := rfl

/-- The number of levels that are left for a tree in an answer, which takes up six of them. -/
def treeLevels : Nat := Json.maxDepth - 6

/-- The updates without a tree: the value has no member for it, or null. -/
inductive IsEmptyUpdate : Term → Prop
  | missing {update : RecordFrame} (hupdate : update.IsReadable "val") {value : Term}
    (hvalue : Lacks "jsonVal" value) : IsEmptyUpdate (update.fill "val" value)
  | null {update value : RecordFrame} (hupdate : update.IsReadable "val") (hvalue : value.IsReadable "jsonVal") :
    IsEmptyUpdate (update.fill "val" (value.fill "jsonVal" .null))

/-- The notifications without a tree: there are no updates, or none with a tree. -/
inductive IsEmptyNotification : Term → Prop
  | missing {t : Term} (h : Lacks "update" t) : IsEmptyNotification t
  | updates {notification : RecordFrame} (h : notification.IsReadable "update") {updates : List Term}
    (hupdates : ∀ t ∈ updates, IsEmptyUpdate t) :
    IsEmptyNotification (notification.fill "update" (.array updates none))

/-- The answers that can be read around a tree, which is the first one in them: the notifications and updates in front
hold no tree, those behind can be read, and other members are passed over. -/
structure AnswerFrame.IsReadable (frame : AnswerFrame) : Prop where
  answer : frame.answer.IsReadable "notification"
  notifications : frame.notifications.IsReadable IsEmptyNotification (notificationDecoder (treeLevels + 4))
  notification : frame.notification.IsReadable "update"
  updates : frame.updates.IsReadable IsEmptyUpdate (updateDecoder (treeLevels + 2))
  update : frame.update.IsReadable "val"
  value : frame.value.IsReadable "jsonVal"

theorem updateDecoder_of_isEmptyUpdate (depth : Nat) (t : Term) (h : IsEmptyUpdate t) :
    ∃ value, updateDecoder (depth + 2) t = .ok value ∧ value = none := by
  refine ⟨none, ?_, rfl⟩
  cases h with
  | missing hupdate hvalue => exact (member_fill hupdate _).trans (member_of_lacks hvalue none)
  | null hupdate hvalue => exact (member_fill hupdate _).trans (member_fill hvalue .null)

theorem notificationDecoder_of_isEmptyNotification (depth : Nat) (t : Term) (h : IsEmptyNotification t) :
    ∃ values, notificationDecoder (depth + 4) t = .ok values ∧ ∀ value ∈ values, value = none := by
  cases h with
  | missing h => exact ⟨[], member_of_lacks h [], List.forall_mem_nil _⟩
  | updates h hupdates =>
    obtain ⟨values, hvalues, hnone⟩ :=
      list_of_forall fun t ht => updateDecoder_of_isEmptyUpdate depth t (hupdates t ht)
    exact ⟨values, (member_fill h _).trans hvalues, hnone⟩

/-- In an answer that can be read, the tree is read with the levels that are left for it, and no value stands in front
of it. -/
theorem valuesDecoder_fill {frame : AnswerFrame} (h : frame.IsReadable) :
    ∃ front back : List (Option Json), (∀ value ∈ front, value = none) ∧
      ∀ t, valuesDecoder Json.maxDepth (frame.fill t) =
        (fun value => front ++ value :: back) <$> Decoder.optional .value treeLevels t := by
  obtain ⟨earlier, later, hearlier, hnotifications⟩ :=
    list_fill (notificationDecoder_of_isEmptyNotification treeLevels) h.notifications
  obtain ⟨front, back, hfront, hupdates⟩ := list_fill (updateDecoder_of_isEmptyUpdate treeLevels) h.updates
  refine ⟨earlier.flatten ++ front, back ++ later.flatten, ?_, fun t => ?_⟩
  · intro value hvalue
    rcases List.mem_append.mp hvalue with hvalue | hvalue
    · obtain ⟨values, hvalues, hvalue⟩ := List.mem_flatten.mp hvalue
      exact hearlier values hvalues value hvalue
    · exact hfront value hvalue
  · -- from the tree outwards, each record and each list takes up one level
    have hupdate : updateDecoder (treeLevels + 2) (frame.fillUpdate t) = Decoder.optional .value treeLevels t :=
      (member_fill h.update _).trans (member_fill h.value t)
    have hnotification : notificationDecoder (treeLevels + 4) (frame.fillNotification t) =
        (fun value => front ++ value :: back) <$> Decoder.optional .value treeLevels t :=
      (member_fill h.notification _).trans ((hupdates _).trans (congrArg _ hupdate))
    have hanswer : valuesDecoder Json.maxDepth (frame.fill t) =
        List.flatten <$> (fun values => earlier ++ values :: later) <$>
          notificationDecoder (treeLevels + 4) (frame.fillNotification t) :=
      congrArg _ ((member_fill h.answer _).trans (hnotifications _))
    rw [hanswer, hnotification]
    cases Decoder.optional .value treeLevels t with
    | error e => rfl
    | ok value => simp [Functor.map, Except.map, List.flatten_append, List.flatten_cons, List.append_assoc]

/-! ### Reading alike -/

section Congr

variable {γ : Type} {f : Option Json → γ} {t u : Term}
  (h : f <$> Decoder.optional .value treeLevels t = f <$> Decoder.optional .value treeLevels u) (frame : AnswerFrame)

include h

private theorem updateDecoder_fill_congr :
    f <$> updateDecoder (treeLevels + 2) (frame.fillUpdate t) =
      f <$> updateDecoder (treeLevels + 2) (frame.fillUpdate u) :=
  member_fill_congr (member_fill_congr h frame.value) frame.update

private theorem notificationDecoder_fill_congr :
    List.map f <$> notificationDecoder (treeLevels + 4) (frame.fillNotification t) =
      List.map f <$> notificationDecoder (treeLevels + 4) (frame.fillNotification u) :=
  member_fill_congr (list_fill_congr (updateDecoder_fill_congr h frame) frame.updates) frame.notification

/-- Two terms that are read alike as the tree are read alike in every answer. -/
theorem valuesDecoder_fill_congr :
    List.map f <$> valuesDecoder Json.maxDepth (frame.fill t) =
      List.map f <$> valuesDecoder Json.maxDepth (frame.fill u) := by
  have hanswer : List.map (List.map f) <$>
        member "notification" (some []) (.list notificationDecoder) Json.maxDepth (frame.fill t) =
      List.map (List.map f) <$>
        member "notification" (some []) (.list notificationDecoder) Json.maxDepth (frame.fill u) :=
    member_fill_congr (list_fill_congr (notificationDecoder_fill_congr h frame) frame.notifications) frame.answer
  have hvalues := congrArg (List.flatten <$> ·) hanswer
  simpa only [valuesDecoder_eq, Functor.map_map, List.map_flatten] using hvalues

end Congr

end ConfigMigration.Message

import GoldenCapture.Proofs.Net.Openings
import GoldenCapture.Proofs.Sink.Requests

/-!
# Starting the sinks of a run

Sinks are started in the order of their settings. Either each has a listener and an empty store of
its own, or one of the calls was denied and the listeners before it have been stopped.
-/

namespace GoldenCapture

def SinkSettings.call (s : SinkSettings) : ListenerCall := ⟨s.protocol.name, s.bind⟩

/-- What the settings ask a sink to do, and the listener that has been started for it. -/
abbrev SinkPost := SinkSettings × Listener

namespace SinkPost

def protocol (post : SinkPost) : Protocol := post.1.protocol

def sink (post : SinkPost) : Sink := { protocol := post.protocol, listener := post.2.id }

@[simp] theorem sink_protocol (post : SinkPost) : post.sink.protocol = post.protocol := rfl

end SinkPost

namespace SinkSet

/-- There is an unused sink at each of these posts, and no other sink. -/
structure Mans (s : SinkSet) (posts : List SinkPost) : Prop where
  at_post : ∀ post ∈ posts, s.get? post.protocol = some post.sink
  nowhere_else : ∀ p, p ∉ posts.map SinkPost.protocol → s.get? p = none

variable {s : SinkSet} {posts : List SinkPost} {post : SinkPost} {id : Nat}

theorem mans_nil : ({} : SinkSet).Mans [] where
  at_post _ hpost := absurd hpost List.not_mem_nil
  nowhere_else _ _ := rfl

theorem Mans.put (h : s.Mans posts) (hnew : post.protocol ∉ posts.map SinkPost.protocol) :
    (s.put post.sink).Mans (posts ++ [post]) := by
  constructor
  · intro other hother
    unfold SinkSet.put
    rw [get?_insert, SinkPost.sink_protocol]
    rw [List.mem_append, List.mem_singleton] at hother
    obtain hother | rfl := hother
    · have hne : other.protocol ≠ post.protocol := fun heq =>
        hnew (heq ▸ List.mem_map_of_mem hother)
      rw [if_neg hne]
      exact h.at_post other hother
    · exact if_pos rfl
  · intro p hp
    unfold SinkSet.put
    rw [List.map_append, List.mem_append, not_or] at hp
    rw [get?_insert, SinkPost.sink_protocol, if_neg (by simpa using hp.2)]
    exact h.nowhere_else p hp.1

theorem mem_listeners : id ∈ s.listeners ↔ ∃ p sink, s.get? p = some sink ∧ sink.listener = id := by
  unfold listeners
  simp only [List.mem_filterMap, mem_protocols, Option.map_eq_some_iff]
  constructor
  · rintro ⟨p, -, sink, hsink, hid⟩
    exact ⟨p, sink, hsink, hid⟩
  · rintro ⟨p, sink, hsink, hid⟩
    exact ⟨p, by rw [hsink, Option.isSome_some], sink, hsink, hid⟩

theorem Mans.mem_listeners (h : s.Mans posts) :
    id ∈ s.listeners ↔ ∃ post ∈ posts, post.2.id = id := by
  rw [SinkSet.mem_listeners]
  constructor
  · rintro ⟨p, sink, hsink, hid⟩
    by_cases hp : p ∈ posts.map SinkPost.protocol
    · obtain ⟨post, hpost, rfl⟩ := List.mem_map.mp hp
      rw [h.at_post post hpost, Option.some.injEq] at hsink
      subst hsink
      exact ⟨post, hpost, hid⟩
    · rw [h.nowhere_else p hp] at hsink
      cases hsink
  · rintro ⟨post, hpost, hid⟩
    exact ⟨post.protocol, post.sink, h.at_post post hpost, hid⟩

theorem Mans.store_eq (h : s.Mans posts) (hpost : post ∈ posts) :
    s.store post.protocol = .ok {} := by
  unfold SinkSet.store SinkSet.sink
  rw [h.at_post post hpost]
  rfl

/-! ## All sinks -/

variable {n₀ n : Listeners} {calls : List ListenerCall} {opened : List Listener}
  {settings : List SinkSettings}

/-- What starting the rest of the sinks comes to, if some listeners have been opened before and
sinks have been started at some posts. -/
inductive Started (n₀ : Listeners) (calls : List ListenerCall) (opened : List Listener)
    (settings : List SinkSettings) (posts : List SinkPost) :
    Except Failure SinkSet × Listeners → Prop
  | all {sinks : SinkSet} {n : Listeners} (more : List Listener)
      (hmeets : n₀.Meets calls n (opened ++ more)) (hall : more.length = settings.length)
      (hmans : sinks.Mans (posts ++ settings.zip more)) :
      Started n₀ calls opened settings posts (.ok sinks, n)
  | denied {sinks : SinkSet} {n : Listeners} {call : ListenerCall} (more : List Listener)
      (hmeets : n₀.Meets calls n (opened ++ more))
      (hcall : calls[(opened ++ more).length]? = some call)
      (hdenies : n₀.denies calls (opened ++ more).length call.address = true)
      (hmans : sinks.Mans (posts ++ settings.zip more)) :
      Started n₀ calls opened settings posts
        (.error (.listener call.label call.address.text), sinks.stopAll n)

theorem Started.cons {first : SinkSettings} {l : Listener} {r : Except Failure SinkSet × Listeners}
    (h : Started n₀ calls (opened ++ [l]) settings (posts ++ [(first, l)]) r) :
    Started n₀ calls opened (first :: settings) posts r := by
  cases h with
  | all more hmeets hall hmans =>
    rw [List.append_assoc] at hmeets hmans
    exact .all (l :: more) hmeets (congrArg (· + 1) hall) hmans
  | denied more hmeets hcall hdenies hmans =>
    rw [List.append_assoc] at hmeets hcall hdenies hmans
    exact .denied (l :: more) hmeets hcall hdenies hmans

theorem started_of_startAll (hmeets : n₀.Meets calls n opened)
    (hcalls : calls.drop opened.length = settings.map SinkSettings.call)
    (hnodup : (posts.map SinkPost.protocol ++ settings.map SinkSettings.protocol).Nodup)
    (hmans : s.Mans posts) :
    Started n₀ calls opened settings posts (startAll settings s n) := by
  induction settings generalizing s n opened posts with
  | nil =>
    refine .all [] ?_ rfl ?_
    · rwa [List.append_nil]
    · rwa [List.zip_nil_left, List.append_nil]
  | cons first rest ih =>
    have hcall : calls[opened.length]? = some first.call := by
      rw [← List.head?_drop, hcalls]
      rfl
    unfold startAll
    cases hstart : n.start first.protocol.name first.bind with
    | none =>
      have hnext : calls[(opened ++ []).length]? = some first.call := by rwa [List.append_nil]
      refine .denied [] ?_ hnext ?_ ?_
      · rwa [List.append_nil]
      · rw [List.append_nil]
        exact hmeets.denied hstart
      · rwa [List.zip_nil_right, List.append_nil]
    | some started =>
      obtain ⟨l, n'⟩ := started
      have hnew : first.protocol ∉ posts.map SinkPost.protocol := fun hmem =>
        (List.nodup_append.mp hnodup).2.2 _ hmem _ List.mem_cons_self rfl
      have hput : (s.put (SinkPost.sink (first, l))).Mans (posts ++ [(first, l)]) := hmans.put hnew
      refine (ih (hmeets.next hcall hstart).1 ?_ ?_ hput).cons
      · rw [List.length_append, List.length_singleton, ← List.drop_drop, hcalls]
        rfl
      · rw [List.map_append, List.append_assoc]
        exact hnodup

/-! ## Listeners stay -/

theorem listener_insert {s : SinkSet} {p : Protocol} {sink : Sink} (hsink : s.get? p = some sink)
    (other : Sink) (hother : other.listener = sink.listener) (q : Protocol) :
    (get? ⟨s.sinks.insert p other⟩ q).map Sink.listener =
      (s.get? q).map Sink.listener := by
  rw [get?_insert]
  split
  · rename_i hq
    rw [hq, hsink, Option.map_some, Option.map_some, hother]
  · rfl

theorem listener_handle (s : SinkSet) (p : Protocol) (r : HttpRequest) (q : Protocol) :
    ((s.handle p r).2.get? q).map Sink.listener = (s.get? q).map Sink.listener := by
  unfold handle
  split
  · rfl
  · rename_i sink hsink
    exact listener_insert hsink _ (Sink.listener_handle sink r) q

theorem listener_append (s : SinkSet) (p : Protocol) (batch : Batch) (q : Protocol) :
    ((s.append p batch).get? q).map Sink.listener = (s.get? q).map Sink.listener := by
  unfold append
  split
  · rfl
  · rename_i sink hsink
    exact listener_insert hsink { sink with store := sink.store.append p batch } rfl q

end SinkSet

end GoldenCapture

import GatewayClient.Connection.Basic

/-!
# GatewayClient.Proofs.Subscription.Registry

What each operation of the registry does to its subscriptions and listeners, which channels a
stream has that takes over the listeners that waited, and what a frame leads to.
-/

namespace GatewayClient

namespace Registry

/-- A registry with a listener for a channel: a new one waits in the queue unless a stream is
open. -/
def listen (r : Registry) (channel : String) (streaming : Bool) : Registry :=
  if r.hasListener channel then r
  else { r with
    listeners := r.listeners ++ [channel]
    queue := if streaming then r.queue else r.queue ++ [channel] }

@[simp] theorem subscriptions_listen (r : Registry) (channel : String) (streaming : Bool) :
    (r.listen channel streaming).subscriptions = r.subscriptions := by
  unfold listen
  split <;> rfl

/-- What is removed are the configs of the callback's subscriptions, in their order. -/
theorem remove_eq (r : Registry) (callback : Callback) :
    r.remove callback =
      ({ r with subscriptions := r.subscriptions.filter (fun s => s.callback != callback) },
        (r.subscriptions.filter (fun s => s.callback == callback)).map Subscription.config) := by
  simp only [remove, List.partition_eq_filter_filter]
  rfl

/-- A channel that has its listener changes nothing. -/
theorem listen_of_mem {r : Registry} (there : channel ∈ r.listeners) (streaming : Bool) :
    r.listen channel streaming = r := by
  simp [listen, hasListener, there]

/-- A new channel gets its listener, which waits unless a stream is open. -/
theorem listen_of_not_mem {r : Registry} (fresh : channel ∉ r.listeners) (streaming : Bool) :
    r.listen channel streaming = { r with
      listeners := r.listeners ++ [channel]
      queue := if streaming then r.queue else r.queue ++ [channel] } := by
  simp [listen, hasListener, fresh]

theorem mem_listen (r : Registry) (channel : String) (streaming : Bool) (name : String) :
    name ∈ (r.listen channel streaming).listeners ↔ name ∈ r.listeners ∨ channel = name := by
  by_cases there : channel ∈ r.listeners
  · rw [listen_of_mem there]
    constructor
    · exact .inl
    · rintro (member | rfl)
      · exact member
      · exact there
  · rw [listen_of_not_mem there]
    simp [eq_comm]

theorem nodup_listen {r : Registry} (distinct : r.listeners.Nodup) (channel : String)
    (streaming : Bool) : (r.listen channel streaming).listeners.Nodup := by
  by_cases there : channel ∈ r.listeners
  · rw [listen_of_mem there]
    exact distinct
  · rw [listen_of_not_mem there, List.nodup_append]
    refine ⟨distinct, by simp, fun name member single alone same => ?_⟩
    rw [List.mem_singleton.mp alone] at same
    exact there (same ▸ member)

/-- A payload that can be read goes to the subscriptions on its channel that it satisfies, in
their order. -/
theorem deliveries_of_read (r : Registry) (channel : String) {data : String} {e : Event}
    (readable : Event.read data = .ok e) :
    r.deliveries channel data = .ok ⟨(r.onChannel channel).length,
      ((r.onChannel channel).filter (fun s => e.satisfies s.config)).map
        (fun s => (s.callback, e))⟩ := by
  unfold deliveries
  cases r.onChannel channel with
  | nil => rfl
  | cons first rest => rw [readable]; rfl

end Registry

namespace PushStream

/-- A new channel is attached behind the others. -/
theorem attach_of_not_mem {s : PushStream} (fresh : channel ∉ s.attached) :
    s.attach channel = { s with attached := s.attached ++ [channel] } := by
  simp [attach, fresh]

/-- Attaching distinct channels to a new stream attaches them in their order. -/
theorem attached_foldl (channels : List String) (s : PushStream)
    (distinct : (s.attached ++ channels).Nodup) :
    (channels.foldl attach s).attached = s.attached ++ channels := by
  induction channels generalizing s with
  | nil => simp
  | cons channel rest ih =>
    have fresh : channel ∉ s.attached := by
      intro member
      have apart := (List.nodup_append.mp distinct).2.2
      exact apart channel member channel List.mem_cons_self rfl
    rw [List.foldl_cons, ih, attach_of_not_mem fresh]
    · simp
    · rw [attach_of_not_mem fresh]
      simpa using distinct

end PushStream

end GatewayClient

import Tzrpc.SyncCallServer
import Mathlib.Data.List.Range

/-!
# Responses in the order of the calls

A call is made on a connection only after the one before it has read its whole response.
`Serves` is this order seen from the link, and every response is read by its own call for
as long as it holds.
-/
namespace Tzrpc.Link

open Client (Call)

/-- The first `m` requests were answered in order and their calls have read all of the
answers; the bytes read since then are those of later calls. -/
structure Serves (l : Link) (m : ℕ) : Prop where
  answered : (l.answers.take m).map (·.request) = List.range m
  accepted : ∀ a ∈ l.answers.take m, a.accepted = true
  read : l.parts.take m = (l.answers.take m).map Response.bytes
  delivered : l.down.taken = l.parts.flatten

section Serves

variable {S : Setup} {l l' : Link} {m : ℕ} {older : List Call} {call : Call}

lemma Serves.le_answers (h : l.Serves m) : m ≤ l.answers.length := by
  have hl := congrArg List.length h.answered
  rw [List.length_map, List.length_take, List.length_range] at hl
  omega

lemma Serves.sent_eq (h : l.Serves m) :
    l.sent = l.answers.take m ++ (l.answers.drop m).filter (·.accepted) := by
  conv_lhs => rw [sent, ← List.take_append_drop m l.answers, List.filter_append]
  rw [List.filter_eq_self.mpr h.accepted]

lemma Serves.of_view (h : l.Serves m) (hcalls : l'.calls = l.calls) (hreads : l'.reads = l.reads)
    (htaken : l'.down.taken = l.down.taken) (hans : l.answers <+: l'.answers) : l'.Serves m := by
  obtain ⟨new, hnew⟩ := hans
  have htake : l'.answers.take m = l.answers.take m := by
    rw [← hnew, List.take_append_of_le_length h.le_answers]
  have hparts : l'.parts = l.parts := by
    unfold parts readBy
    rw [hcalls, hreads]
  constructor
  · rw [htake]
    exact h.answered
  · rw [htake]
    exact h.accepted
  · rw [htake, hparts]
    exact h.read
  · rw [htaken, hparts]
    exact h.delivered

lemma step_serves {e : Event} (h : l.Serves m) (hs : l.step S e = some l') : l'.Serves m := by
  obtain ⟨hcalls, hreads, htaken, -, hans⟩ := step_client_view hs
  exact h.of_view hcalls hreads htaken hans

lemma opened_serves (S : Setup) (call : Call) : (opened S call).Serves 0 where
  answered := rfl
  accepted := by simp
  read := by simp
  delivered := rfl

lemma Serves.parts_eq (h : l.Serves older.length) (hcalls : l.calls = older ++ [call]) :
    l.parts = (l.answers.take older.length).map Response.bytes ++ [l.readBy call.id] := by
  rw [← h.read, parts, hcalls, List.map_append, List.map_singleton,
    List.take_append_of_le_length (by simp), List.take_of_length_le (by simp)]

/-- Behind the answers that were read there is at most the last call's own. -/
lemma Serves.rest (h : l.Serves older.length) (hS : l.Sound S) (hcalls : l.calls = older ++ [call]) :
    l.answers.drop older.length = [] ∨
      ∃ a, l.answers.drop older.length = [a] ∧ a.request = older.length := by
  have hsplit := congrArg (List.map (·.request)) (List.take_append_drop older.length l.answers)
  rw [List.map_append, h.answered] at hsplit
  have hnodup := hS.once
  rw [← hsplit, List.nodup_append] at hnodup
  obtain ⟨-, hnodup, hdisj⟩ := hnodup
  have hown : ∀ a ∈ l.answers.drop older.length, a.request = older.length := by
    intro a ha
    have hlt := hS.request_lt (List.mem_of_mem_drop ha)
    have hge : ¬ a.request < older.length := fun hk =>
      hdisj _ (List.mem_range.mpr hk) _ (List.mem_map_of_mem ha) rfl
    rw [hcalls, List.length_append, List.length_singleton] at hlt
    omega
  match hd : l.answers.drop older.length with
  | [] => exact Or.inl rfl
  | [a] => exact Or.inr ⟨a, rfl, hown a (by simp [hd])⟩
  | a :: b :: more =>
    have ha := hown a (by simp [hd])
    have hb := hown b (by simp [hd])
    simp [hd, ha, hb] at hnodup

/-- The last call has read nothing, or a first part of the answer to its own request. -/
theorem Serves.response (h : l.Serves older.length) (hS : l.Sound S)
    (hcalls : l.calls = older ++ [call]) :
    l.readBy call.id = [] ∨
      ∃ a, l.answers.drop older.length = [a] ∧ a.request = older.length ∧ a.accepted = true ∧
        l.readBy call.id <+: a.bytes := by
  have hwire := hS.sends.sent
  simp only [Senders.frames, h.sent_eq, List.map_append, List.flatten_append, List.map_map] at hwire
  have hread := l.down.taken_prefix.trans hwire
  rw [h.delivered, h.parts_eq hcalls, List.flatten_append, List.flatten_singleton] at hread
  have hown := (List.prefix_append_right_inj _).mp hread
  rcases h.rest hS hcalls with hrest | ⟨a, hrest, hreq⟩
  · rw [hrest] at hown
    exact Or.inl (List.prefix_nil.mp hown)
  · rw [hrest] at hown
    cases hacc : a.accepted with
    | false => exact Or.inl (List.prefix_nil.mp (by simpa [hacc] using hown))
    | true => exact Or.inr ⟨a, hrest, hreq, hacc, by simpa [hacc, Response.bytes] using hown⟩

lemma Serves.next {a : Response} (h : l.Serves older.length) (hcalls : l.calls = older ++ [call])
    (hrest : l.answers.drop older.length = [a]) (hreq : a.request = older.length)
    (hacc : a.accepted = true) (hread : l.readBy call.id = a.bytes) : l.Serves l.calls.length := by
  have hans : l.answers = l.answers.take older.length ++ [a] := by
    conv_lhs => rw [← List.take_append_drop older.length l.answers, hrest]
  have hlen : l.calls.length = older.length + 1 := by simp [hcalls]
  have hall : l.answers.take l.calls.length = l.answers := by
    apply List.take_of_length_le
    rw [hans, List.length_append, List.length_take, List.length_singleton]
    omega
  constructor
  · rw [hall, hans, List.map_append, h.answered, hlen, List.range_succ, List.map_singleton, hreq]
  · intro b hb
    rw [hall, hans] at hb
    rcases List.mem_append.mp hb with hb | hb
    · exact h.accepted b hb
    · exact List.mem_singleton.mp hb ▸ hacc
  · rw [hall, List.take_of_length_le (by simp [parts]), h.parts_eq hcalls, hread]
    conv_rhs => rw [hans, List.map_append, List.map_singleton]
  · exact h.delivered

lemma join_serves (h : l.Serves l.calls.length) (hnew : l.readBy call.id = []) :
    (l.join call).Serves l.calls.length := by
  have hparts : (l.join call).parts = l.parts ++ [[]] := by
    simp only [parts, join, List.map_append, List.map_singleton]
    rw [← hnew]
    rfl
  constructor
  · exact h.answered
  · exact h.accepted
  · rw [hparts, List.take_append_of_le_length (by simp [parts])]
    exact h.read
  · rw [hparts, List.flatten_append, ← h.delivered]
    exact (List.append_nil _).symm

lemma readBy_append {id : ℕ} {bytes : Bytes}
    (hr : l'.reads = l.reads ++ [(id, bytes)]) (id' : ℕ) :
    l'.readBy id' = l.readBy id' ++ if id = id' then bytes else [] := by
  unfold readBy
  rw [hr, List.filter_append, List.flatMap_append]
  split_ifs with h <;> simp [h]

lemma read_view {id : ℕ} {bytes : Bytes} (hr : l.read id bytes = some l') :
    l'.calls = l.calls ∧ l'.answers = l.answers ∧ l'.reads = l.reads ++ [(id, bytes)] ∧
      l'.down.taken = l.down.taken ++ bytes ∧ l'.up = l.up := by
  obtain ⟨down, hdown, rfl⟩ := Option.map_eq_some_iff.mp hr
  exact ⟨rfl, rfl, rfl, (Pipe.take_eq hdown).1, rfl⟩

lemma read_serves {bytes : Bytes} (h : l.Serves older.length) (hcalls : l.calls = older ++ [call])
    (hids : (l.calls.map Call.id).Nodup) (hr : l.read call.id bytes = some l') :
    l'.Serves older.length ∧ l'.readBy call.id = l.readBy call.id ++ bytes := by
  obtain ⟨hcalls', hans, hreads, htaken, -⟩ := read_view hr
  have hby := readBy_append hreads
  have hown := hby call.id
  rw [if_pos rfl] at hown
  have hold : (older.map fun c => l'.readBy c.id) = l.parts.take older.length := by
    rw [parts, hcalls, List.map_append, List.take_append_of_le_length (by simp),
      List.take_of_length_le (by simp), List.map_inj_left]
    intro c hc
    rw [hcalls, List.map_append, List.nodup_append] at hids
    have hne := hids.2.2 _ (List.mem_map_of_mem hc) call.id (by simp)
    rw [hby, if_neg hne.symm, List.append_nil]
  have hparts : l'.parts = l.parts.take older.length ++ [l.readBy call.id ++ bytes] := by
    rw [parts, hcalls', hcalls, List.map_append, hold, List.map_singleton, hown]
  refine ⟨⟨hans ▸ h.answered, hans ▸ h.accepted, ?_, ?_⟩, hown⟩
  · rw [hparts, hans, List.take_append_of_le_length (by simp [parts, hcalls]), List.take_take,
      min_self]
    exact h.read
  · have hflat := h.delivered
    rw [h.parts_eq hcalls, ← h.read] at hflat
    rw [hparts, htaken, hflat]
    simp

/-- Of the responses on the stream each is read by the call whose request it answers, and
every call but the last has read all of its own. -/
structure ReadsOwn (l : Link) : Prop where
  wire : l.down.all <+: (l.sent.map Response.bytes).flatten
  delivered : l.down.taken = l.parts.flatten
  own : ∀ k (call : Call), l.calls[k]? = some call → l.readBy call.id ≠ [] →
    ∃ a : Response, l.sent[k]? = some a ∧ a.request = k ∧ l.readBy call.id <+: a.bytes
  whole : ∀ k (call : Call), l.calls[k]? = some call → k + 1 < l.calls.length →
    ∃ a : Response, l.sent[k]? = some a ∧ l.readBy call.id = a.bytes

lemma Serves.answer {k : ℕ} (h : l.Serves m) (hk : k < m) (hc : l.calls[k]? = some call) :
    ∃ a : Response, l.sent[k]? = some a ∧ a.request = k ∧ l.readBy call.id = a.bytes := by
  have hreq : ((l.answers.take m).map (·.request))[k]? = some k := by
    rw [h.answered, List.getElem?_range hk]
  have hread : ((l.answers.take m).map Response.bytes)[k]? = some (l.readBy call.id) := by
    rw [← h.read, List.getElem?_take_of_lt hk, parts, List.getElem?_map, hc, Option.map_some]
  rw [List.getElem?_map] at hreq hread
  obtain ⟨a, ha, hreq⟩ := Option.map_eq_some_iff.mp hreq
  rw [ha] at hread
  refine ⟨a, ?_, hreq, (Option.some.inj hread).symm⟩
  rw [h.sent_eq, List.getElem?_append_left (List.getElem?_eq_some_iff.mp ha).1, ha]

theorem Serves.readsOwn (h : l.Serves m) (hS : l.Sound S) (hm : l.calls.length ≤ m + 1) :
    l.ReadsOwn := by
  refine ⟨?_, h.delivered, fun k call hc hne => ?_, fun k call hc hk => ?_⟩
  · have hwire := hS.sends.sent
    simp only [Senders.frames, List.map_map] at hwire
    exact hwire
  · have hlt := (List.getElem?_eq_some_iff.mp hc).1
    by_cases hk : k < m
    · obtain ⟨a, ha, hreq, hread⟩ := h.answer hk hc
      exact ⟨a, ha, hreq, hread ▸ List.prefix_refl _⟩
    · obtain rfl : k = m := by omega
      have hlen : (l.calls.take k).length = k := by
        rw [List.length_take]
        omega
      have hcalls : l.calls = l.calls.take k ++ [call] := by
        conv_lhs => rw [← List.take_append_drop k l.calls, List.drop_eq_getElem_cons hlt]
        rw [List.drop_eq_nil_of_le (by omega), (List.getElem?_eq_some_iff.mp hc).2]
      rw [← hlen] at h
      rcases h.response hS hcalls with hnil | ⟨a, hrest, hreq, hacc, hpre⟩
      · exact absurd hnil hne
      · rw [hlen] at hrest hreq
        refine ⟨a, ?_, hreq, hpre⟩
        rw [hlen] at h
        rw [h.sent_eq, hrest, List.getElem?_append_right (by simp)]
        simp [hacc, h.le_answers]
  · obtain ⟨a, ha, -, hread⟩ := h.answer (by omega) hc
    exact ⟨a, ha, hread⟩

end Serves

end Tzrpc.Link

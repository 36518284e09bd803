import TinyIpfix.Comm
import TinyIpfix.Lib.Window

/-! The callback drops templates before they reach the aggregation, so a run is that of
its data datagrams. -/

namespace TinyIpfix
open CMem Transducer

/-- The data datagrams of a run, in arrival order. -/
def dataDatagrams (datagrams : List Datagram) : List Datagram :=
  datagrams.filter fun datagram => !isTemplate datagram

theorem mem_dataDatagrams {datagrams : List Datagram} {datagram : Datagram} :
    datagram ∈ dataDatagrams datagrams ↔ datagram ∈ datagrams ∧ isTemplate datagram = false := by
  simp [dataDatagrams]

theorem dataDatagrams_split {datagrams : List Datagram} {count : Nat} (inside : count < (dataDatagrams datagrams).length) :
    ∃ before datagram after, datagrams = before ++ datagram :: after ∧ isTemplate datagram = false ∧
      (dataDatagrams before).length = count := by
  have parts := List.take_append_drop count (dataDatagrams datagrams)
  rw [List.drop_eq_getElem_cons inside] at parts
  obtain ⟨early, late, whole, front, rest⟩ := List.filter_eq_append_iff.mp parts.symm
  obtain ⟨skipped, after, shape, templates, data, -⟩ := List.filter_eq_cons_iff.mp rest
  refine ⟨early ++ skipped, _, after, by rw [whole, shape, List.append_assoc], by simpa using data, ?_⟩
  have none : dataDatagrams skipped = [] := List.filter_eq_nil_iff.mpr templates
  have both : dataDatagrams (early ++ skipped) = dataDatagrams early ++ dataDatagrams skipped := List.filter_append ..
  rw [both, none, List.append_nil, dataDatagrams, front, List.length_take]
  omega

variable {σ : Type}

theorem receiver_template (calcAggrPayload : Datagram → σ → Checked (σ × List Message)) {datagram : Datagram}
    (template : isTemplate datagram = true) (state : σ) : receiver calcAggrPayload datagram state = .ok (state, []) :=
  if_pos template

theorem receiver_data (calcAggrPayload : Datagram → σ → Checked (σ × List Message)) {datagram : Datagram}
    (data : isTemplate datagram = false) (state : σ) :
    receiver calcAggrPayload datagram state = calcAggrPayload datagram state :=
  if_neg (by simp [data])

theorem receiver_inv {calcAggrPayload : Datagram → σ → Checked (σ × List Message)} {datagram : Datagram} {state next : σ}
    {sent : List Message} (executed : receiver calcAggrPayload datagram state = .ok (next, sent)) :
    (isTemplate datagram = true ∧ next = state ∧ sent = []) ∨
      (isTemplate datagram = false ∧ calcAggrPayload datagram state = .ok (next, sent)) := by
  cases template : isTemplate datagram with
  | true =>
    rw [receiver_template calcAggrPayload template] at executed
    cases executed
    exact .inl ⟨rfl, rfl, rfl⟩
  | false =>
    rw [receiver_data calcAggrPayload template] at executed
    exact .inr ⟨rfl, executed⟩

theorem run_receiver (calcAggrPayload : Datagram → σ → Checked (σ × List Message)) (datagrams : List Datagram)
    (state : σ) :
    run (receiver calcAggrPayload) datagrams state = run calcAggrPayload (dataDatagrams datagrams) state := by
  rw [run_filter (fun datagram => !isTemplate datagram)
    (fun datagram dropped => receiver_template calcAggrPayload (by simpa using dropped))]
  apply run_congr
  intro datagram member current
  exact receiver_data calcAggrPayload (mem_dataDatagrams.mp member).2 current

end TinyIpfix

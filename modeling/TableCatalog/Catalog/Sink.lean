import TableCatalog.Fault

/-! Listings hand out records one at a time to a sink, which may refuse one and so end the listing. A
sink has a state of its own: the records kept so far, or whatever it does with them. -/

namespace TableCatalog

/-- Work that hands out records to a sink with state `σ`. -/
abbrev Emission (σ : Type) := ExceptT Fault (StateM σ)

/-- Takes one record, or refuses it. -/
abbrev Sink (σ α : Type) := α → Emission σ Unit

namespace Sink

/-- Keeps every record. -/
def collect : Sink (List α) α := fun record => modify (· ++ [record])

/-- Sends the records that a lookup found. If it failed, nothing is sent. -/
def send (sink : Sink σ α) (found : Except Fault (List α)) : Emission σ Unit := do
  (← found).forM sink

end Sink

/-- Runs a listing: its outcome and the state of the sink afterwards. -/
def Emission.run (work : Emission σ Unit) (state : σ) : Except Fault Unit × σ := work state

end TableCatalog

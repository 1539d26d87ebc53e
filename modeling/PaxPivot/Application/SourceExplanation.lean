import PaxPivot.Domain.Source

/-!
# Wording for the source states

`application/source_explanation.py`: one reviewed text per state, from the
state alone.
-/

namespace PaxPivot

/-- `_EXPLANATIONS_BY_STATE`. -/
def explanation : SourceState → String
  | .fresh =>
    "A fresh source observation exists for this source; it is metadata, not a " ++
    "confirmed flight and not confirmed seat availability, and it still requires " ++
    "official verification."
  | .stale =>
    "The available observation for this source is stale: it is no longer current " ++
    "and must not be read as current availability."
  | .unreachable =>
    "The source could not currently be reached, so this check obtained no " ++
    "observation. That is missing data, not evidence that there are no departures."
  | .changedUnparsed =>
    "The source changed and its current contents cannot safely be interpreted, so " ++
    "nothing here states whether departures exist."
  | .missing =>
    "The source itself could not be found or is unavailable, so its published " ++
    "contents are unknown; this is not evidence that there are no departures."
  | .conflict =>
    "Available source evidence conflicts, so no single current reading is " ++
    "established by this observation."
  | .monitorDelayed =>
    "The scheduled source check was delayed, so no current observation is " ++
    "available and current availability cannot be reported."
  | .noDepartures =>
    "This specific source explicitly published no departures in the observation " ++
    "evaluated; that applies to this source only and is not a generalization or a " ++
    "verified flight guarantee."
  | .noCompatible =>
    "For the request evaluated, the evidence did not support a compatible " ++
    "opportunity; the reason is not established here and is not an eligibility, " ++
    "seat or no-departure finding."
  | .restricted =>
    "This source is restricted and may only be reviewed by the user opening it " ++
    "directly; no current availability is established here."
  | .reviewRequired =>
    "An observation for this source is awaiting human parser review, so no current " ++
    "availability is established here."
  | .superseded =>
    "This observation is superseded and is not presented as current availability."
  | .withdrawn =>
    "This source withdrew the observation, so it is no longer current and does not " ++
    "indicate current availability."

def explainSource (o : SourceObservation) : String := explanation o.state

end PaxPivot

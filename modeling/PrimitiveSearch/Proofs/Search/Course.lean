import PrimitiveSearch.Proofs.Search.Log

/-!
# The course of a search

The result of a search keeps the last records only.  Its course keeps all of them, each with the
events of its round.

* `Turn`, `Course` — the rounds of a search, every one begun because nothing was decided before.
* `Ends` — why no further round follows.
* `rounds_course` — the rounds of a search are a course, and the history is its end.
-/

set_option autoImplicit false

namespace PrimitiveSearch.Search

/-- A round that is over, and what it did. -/
structure Turn where
  record : Record
  events : List Event

namespace Turn

/-- How a round ended. -/
def outcome (x : Turn) : Outcome := x.record.outcome

/-- How often a round asked the model. -/
def calls (x : Turn) : Nat := x.events.countP Event.isAsked

end Turn

variable {σ : Type} {w : World σ} {p : Plan} {t : EngineModule.Template} {start : Duration}
  {m₀ m m' : Machine σ} {g : Progress} {turns : List Turn}

/-- The last round does not decide the search, if there is one. -/
def Undecided (turns : List Turn) : Prop :=
  ∀ x, turns.getLast? = some x → x.outcome.decides = none

/-- The rounds of a search that began in `m₀`, up to a state between rounds. -/
inductive Course (w : World σ) (p : Plan) (t : EngineModule.Template) (start : Duration)
    (m₀ : Machine σ) : List Turn → Progress → Machine σ → Prop where
  | begin : Course w p t start m₀ [] Progress.start m₀
  | turn {turns : List Turn} {g g' : Progress} {m m₁ m' : Machine σ} {record : Record}
      {events : List Event} :
      Course w p t start m₀ turns g m →
      Undecided turns →
      m.stopped = false →
      p.limits.roundsSpent g.iteration = false →
      timeIsUp w p start m = (false, m₁) →
      recordedRound w p t g m₁ = some (record, g', m') →
      m'.log = m₁.log ++ events →
      Course w p t start m₀ (turns ++ [⟨record, events⟩]) g' m'

/-- Why no round follows, with the status and the state that this gives. -/
inductive Ends (w : World σ) (p : Plan) (start : Duration) (turns : List Turn) (g : Progress)
    (m : Machine σ) : Status → Machine σ → Prop where
  | decided {x : Turn} {status : Status} :
      turns.getLast? = some x → x.outcome.decides = some status → Ends w p start turns g m status m
  | stopped : Undecided turns → m.stopped = true → Ends w p start turns g m .cancelled m
  | capped : Undecided turns → p.limits.roundsSpent g.iteration = true →
      Ends w p start turns g m .exhausted m
  | late {m' : Machine σ} : Undecided turns → timeIsUp w p start m = (true, m') →
      Ends w p start turns g m .exhausted m'

/-! ## The history -/

/-- The records of the last rounds, at most as many as are to be kept. -/
def lastRecords (limit : Nat) (turns : List Turn) : List Record :=
  (turns.map Turn.record).drop (turns.length - limit)

/-- Keeping one record at a time keeps the last ones. -/
theorem keep_lastRecords (limit : Nat) (turns : List Turn) (x : Turn) :
    keep limit (lastRecords limit turns) x.record = lastRecords limit (turns ++ [x]) := by
  have hle : turns.length - limit ≤ (turns.map Turn.record).length := by
    rw [List.length_map]
    exact Nat.sub_le _ _
  have hdrop : lastRecords limit turns ++ [x.record] =
      (turns.map Turn.record ++ [x.record]).drop (turns.length - limit) := by
    rw [List.drop_append_of_le_length hle]
    rfl
  have hlength : (lastRecords limit turns).length = turns.length - (turns.length - limit) := by
    rw [lastRecords, List.length_drop, List.length_map]
  have hcount : turns.length - limit + ((lastRecords limit turns).length + 1 - limit) =
      turns.length + 1 - limit := by omega
  rw [keep, hdrop, List.drop_drop, hcount, lastRecords, List.map_append, List.length_append]
  rfl

theorem undecided_concat {x : Turn} (h : x.outcome.decides = none) : Undecided (turns ++ [x]) := by
  intro y hy
  rw [List.getLast?_concat] at hy
  cases hy
  exact h

/-! ## Searches -/

/-- The rounds that are left carry a course on to its end. -/
theorem rounds_course {fuel : Nat} {r : Rounds σ} (hc : Course w p t start m₀ turns g m)
    (hu : Undecided turns)
    (h : rounds w p t start fuel g (lastRecords p.limits.historyLimit turns) m = some r) :
    ∃ turns' last, Course w p t start m₀ turns' r.progress last ∧
      Ends w p start turns' r.progress last r.status r.machine ∧
        r.history = lastRecords p.limits.historyLimit turns' := by
  induction fuel generalizing turns g m with
  | zero => cases h
  | succ fuel ih =>
    unfold rounds at h
    split at h
    · rename_i hstopped
      cases h
      exact ⟨turns, m, hc, .stopped hu hstopped, rfl⟩
    rename_i hstopped
    split at h
    · rename_i hspent
      cases h
      exact ⟨turns, m, hc, .capped hu hspent, rfl⟩
    rename_i hspent
    split at h
    · rename_i m₁ htime
      cases h
      exact ⟨turns, m, hc, .late hu htime, rfl⟩
    rename_i m₁ htime
    split at h
    · cases h
    rename_i record g' m' hround
    -- the log only grows, so the events of the round can be told
    obtain ⟨-, -, calls, ⟨events, hlog, -⟩, -⟩ := recordedRound_spec hround
    have hc' := hc.turn hu (by simpa using hstopped) (by simpa using hspent) htime hround hlog
    have hkeep := keep_lastRecords p.limits.historyLimit turns ⟨record, events⟩
    dsimp only at h hkeep
    rw [hkeep] at h
    split at h
    · rename_i status hdecides
      cases h
      exact ⟨_, m', hc', .decided List.getLast?_concat hdecides, rfl⟩
    · rename_i hdecides
      exact ih hc' (undecided_concat hdecides) h

end PrimitiveSearch.Search

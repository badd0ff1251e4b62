/-
The world around an engine, all the time it runs.

The surroundings are others at every moment, an answer from outside may be a while in coming,
and host-mode scripts are run by a runtime of their own.  For the moment stands all that has
happened so far.
-/
import CardTalk.Host.Chunk
import CardTalk.Surroundings

namespace CardTalk

/-- The world around an engine.  The events so far are given, the latest first. -/
structure World where
  /-- What is around the engine. -/
  now : List Event → Surroundings
  /-- Whether a dialog or a fetch, which is the latest event, has to be waited for. -/
  isSlow : List Event → Bool
  /-- What runs host-mode scripts. -/
  host : Host.Runtime

end CardTalk

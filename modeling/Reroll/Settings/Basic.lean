import Reroll.Document.Shape
import Reroll.Line.Gather
import Reroll.Modifier.Exclusion

/-!
# Settings

The settings of a run, with their defaults. Delays are in milliseconds; an empty path or file
name switches the feature off. Settings that are read are checked, but a setting may also be
assigned without a check; so each one is a value, and the part that uses it reports one that does
not fit.
-/

namespace Reroll

/-- Everything that can be set from outside a configuration file. -/
structure Settings where
  logLevel : Value := .text "INFO"
  logPath : Value := .text ""
  logRetentionDays : Value := .int 3
  logRotation : Value := .text "00:00"
  logConsole : Value := .bool true
  maxAttempts : Value := .int 1000
  startDelay : Value := .int 0
  stopSignalFile : Value := .text ""
  delayPoll : Value := .int 30
  delayAbortAfter : Value := .int 5000
  leftClickPostDelay : Value := .int 50
  rightClickPostDelay : Value := .int 100
  keySettle : Value := .int 50
  failureLimit : Value := .int 5
  minLineLength : Value := .int 4
  minDensity : Value := .num (.float 0.45)
  exclusionTrigger : Value := .text "all"
  exclusionContext : Value := .text "spell"
  exclusionWords : Value := .list (List.map .text
    ["fire", "cold", "lightning", "chaos", "physical", "minion", "melee", "bow", "wand"])
  catalogUrl : Value := .text "https://www.pathofexile.com/api/trade2/data/stats"
  catalogGroup : Value := .text "explicit"
  catalogTimeout : Value := .num (.float 10.0)
  catalogCache : Value := .text ""
  debugCaptureDir : Value := .text ""
  leftTrimRatio : Value := .num (.float 0.12)
  captureScale : Value := .int 2
  captureThreshold : Value := .int 200
  ioPoolSize : Value := .int 0
  computePoolSize : Value := .int 0

namespace Settings

/-- A word of the exclusion in lower case. -/
def smallWord : Value → Except ShapeError String
  | .text w => .ok (String.ofList (Text.lower w.toList))
  | v => .error (.lacks v.fullKindName "lower")

/-- The exclusion that the settings ask for; its words are compared in lower case. A trigger that is
no text never occurs. -/
def exclusion (s : Settings) : Except ShapeError Exclusion := do
  let words ← (← s.exclusionWords.walk).mapM smallWord
  return { trigger := s.exclusionTrigger.textOrEmpty, context := s.exclusionContext, words }

/-- What a reading must reach to be kept. -/
def thresholds (s : Settings) : Line.Thresholds where
  length := s.minLineLength
  density := s.minDensity

end Settings

end Reroll

import Masquerade.Instance
import Masquerade.Logic.Forest
import Masquerade.Ruleset

/-!
# Refusals

Everything that the game can refuse, by cause, with the words for it in `GameError.message`.
-/

namespace Masquerade

/-- What is wrong with an authored behavior. -/
inductive BehaviorFlaw where
  | gateAndEffect
  | invertedEffect
  deriving DecidableEq

/-- The flaw in words. -/
def BehaviorFlaw.message : BehaviorFlaw → String
  | gateAndEffect => "gate and effect on the same behavior"
  | invertedEffect => "invert only applies to gates"

/-- Why a content file could not be read. -/
inductive FileError where
  | missing
  | notDirectory
  | isDirectory
  | nameTooLong
  deriving DecidableEq

/-- The reason in words. -/
def FileError.message : FileError → String
  | missing => "No such file or directory (os error 2)"
  | notDirectory => "Not a directory (os error 20)"
  | isDirectory => "Is a directory (os error 21)"
  | nameTooLong => "File name too long (os error 36)"

/-- Why a text is not a content file. -/
inductive DocumentFlaw where
  /-- It is not a document of the format. -/
  | malformed
  /-- It is one, but some entry has the wrong shape. -/
  | mismatched
  deriving DecidableEq

/-- The reason in words. -/
def DocumentFlaw.message : DocumentFlaw → String
  | malformed => "malformed document"
  | mismatched => "an entry is missing or has the wrong shape"

/-- A refusal of the game. -/
inductive GameError where
  | ruleset (flaw : RulesetFlaw)
  | duplicateMaterial (id : String)
  | sharedBehavior (material name : String) (flaw : BehaviorFlaw)
  | nodeBehavior (material : String) (flaw : BehaviorFlaw)
  | crowdedNode (material : String)
  | node (error : NodeError)
  | unknownMaterial (id : String)
  | unknownEnemy (name : String)
  | materialNotFound (id : InstanceId)
  | notEnoughMana (needed available : UInt32)
  | noActiveMask
  | maskInProgress
  | missingEnemy
  | battleInProgress
  | document (flaw : DocumentFlaw)
  | file (error : FileError)
  deriving DecidableEq

namespace GameError

/-- A flaw of the content in words. -/
def configuration (problem : String) : String := "Configuration error: " ++ problem

/-- The refusal in words. -/
def message : GameError → String
  | ruleset flaw => configuration flaw.message
  | duplicateMaterial id => configuration s!"duplicate material id '{id}'"
  | sharedBehavior material name flaw =>
    configuration s!"{material}: shared '{name}': {flaw.message}"
  | nodeBehavior material flaw => configuration s!"{material}: {flaw.message}"
  | crowdedNode material =>
    configuration s!"{material}: a node may name only one of gate, effect or use"
  | node error => "Invalid node: " ++ error.message
  | unknownMaterial id => "Unknown material definition: " ++ id
  | unknownEnemy name => "Unknown enemy: " ++ name
  | materialNotFound id => "Material instance not found: " ++ id.short
  | notEnoughMana needed available =>
    s!"Not enough mana: need {needed.toNat}, have {available.toNat}"
  | noActiveMask => "No mask is being crafted"
  | maskInProgress => "A mask is already being crafted"
  | missingEnemy => "No enemy configured for battle"
  | battleInProgress => "A battle is already in progress"
  | document flaw => "TOML error: " ++ flaw.message
  | file error => "IO error: " ++ error.message

end GameError

end Masquerade

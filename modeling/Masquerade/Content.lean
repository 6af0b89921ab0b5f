import Masquerade.Content.Build
import Masquerade.Content.Read
import Masquerade.Toml.Document

/-!
# Content

A `Content` is what a session is played with: the tuning, the player, the catalog of materials, the
enemies and the materials in stock at the beginning. `Content.ofDraft` checks a content file and
builds its materials; every material that the file refers to has to be in the catalog.
-/

namespace Masquerade

/-- What a session is played with. -/
structure Content where
  ruleset : Ruleset
  player : PlayerRecord
  catalog : Catalog
  foes : List Foe
  startingMaterials : List String

namespace Content

/-- The first enemy with the given name. -/
def foe (c : Content) (name : String) : Option Foe :=
  c.foes.find? fun f => f.profile.name == name

/-- Builds the materials of a file one after the other and enters them into a catalog. -/
def catalogOf (drafts : List MaterialDraft) : Except GameError Catalog :=
  drafts.foldlM (fun catalog draft => do catalog.register (← draft.build)) .empty

/-- The ids of materials that a file refers to, in the order in which they are checked. -/
def referred (d : ContentDraft) : List String :=
  d.startingMaterials ++ d.foes.flatMap (·.rewards)

/-- The content of a file: tuning that battles can be fought with, materials that can be built, and no
reference to a material that is not there. -/
def ofDraft (d : ContentDraft) : Except GameError Content :=
  match d.ruleset.flaw? with
  | some flaw => .error (.ruleset flaw)
  | none => do
    let catalog ← catalogOf d.materials
    match (referred d).find? fun id => (catalog.get? id).isNone with
    | some id => .error (.unknownMaterial id)
    | none =>
      return {
        ruleset := d.ruleset
        player := .new d.playerName d.playerStats
        catalog := catalog
        foes := d.foes
        startingMaterials := d.startingMaterials }

/-- The content that a text describes. -/
def parse (text : String) : Except GameError Content :=
  match Toml.parse? text with
  | none => .error (.document .malformed)
  | some document =>
    match draft? document with
    | none => .error (.document .mismatched)
    | some d => ofDraft d

end Content

end Masquerade

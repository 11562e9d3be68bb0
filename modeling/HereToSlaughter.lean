import HereToSlaughter.Runs.Cards
import HereToSlaughter.Runs.Rest
import HereToSlaughter.Runs.Wins
import HereToSlaughter.Runs.Turns
import HereToSlaughter.Server.GameStore
import HereToSlaughter.Server.GameRegistry
import HereToSlaughter.Lobby.Capacity
import HereToSlaughter.Lobby.Seating
import HereToSlaughter.Runs.Commands
import HereToSlaughter.Server.Gateway
import HereToSlaughter.Server.Publisher
import HereToSlaughter.Runs.Answers
import HereToSlaughter.Rules.PartyRequirement
import HereToSlaughter.Rules.Reveals
import HereToSlaughter.Client.LazyChoice
import HereToSlaughter.Runs.Silence
import HereToSlaughter.Runs.Passes
import HereToSlaughter.Runs.Ending
import HereToSlaughter.Runs.Lives
import HereToSlaughter.Auth.Sessions
import HereToSlaughter.Server.Records
import HereToSlaughter.Runs.Monsters
import HereToSlaughter.Runs.Rollback
import HereToSlaughter.Runs.Effects
import HereToSlaughter.Lobby.HandOver
import HereToSlaughter.Lobby.Callers
import HereToSlaughter.Lobby.Told

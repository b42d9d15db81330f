import Cctf.Board.Export
import Cctf.Board.Freeze
import Cctf.Challenges.Updating
import Cctf.Hints.Charging
import Cctf.Hints.Gate
import Cctf.Instances.Reaping
import Cctf.Scoring.Award
import Cctf.Scoring.Consensus
import Cctf.Scoring.Partials
import Cctf.Teams.Joining
import Cctf.Solving.Attempts
import Cctf.Solving.Slots
import Cctf.Api.App
import Cctf.Api.Challenges
import Cctf.Solving.Prerequisites
import Cctf.Solving.Solved
import Cctf.Visibility.Reveal
import Cctf.Api.Hints
import Cctf.Api.Solve
import Cctf.Visibility.Hidden
import Cctf.Library.Traces
import Cctf.Notifications.FirstBlood
import Cctf.Library.Duplex
import Cctf.Library.Slices
import Cctf.Services.Email
import Cctf.Services.Email.Client
import Cctf.Services.Email.Server
import Cctf.Email.Message
import Cctf.Email.Delivery
import Cctf.Email.Script
import Cctf.Email.Injection
import Cctf.Email.Wire
import Cctf.Email.Secrecy
import Cctf.Crypto.Jwt
import Cctf.Crypto.Sessions
import Cctf.Crypto.Invites
import Cctf.Library.Faults
import Cctf.Repos.Pg.Database
import Cctf.Repos.Pg.Stopping
import Cctf.Services.Auth
import Cctf.Teams.SignUp
import Cctf.Teams.Moving
import Cctf.Teams.Membership
import Cctf.Instances.Leaking
import Cctf.Instances.Judging
import Cctf.Files.Keeping
import Cctf.Scoring.Padding
import Cctf.Scoring.Given
import Cctf.Scoring.Monotone
import Cctf.Board.Ranking
import Cctf.Scoring.Counts
import Cctf.Visibility.Detail
import Cctf.Board.Brackets
import Cctf.Board.RowOrder
import Cctf.Board.Deleting
import Cctf.Email.Dialogue
import Cctf.Library.Broadcast
import Cctf.Services.Notifications
import Cctf.Api.Notifications
import Cctf.Notifications.Streams
import Cctf.Hints.Pricing
import Cctf.Scoring.Shares
import Cctf.Scoring.Decay
import Cctf.Api.RateLimit
import Cctf.Crypto.RoundTrip
import Cctf.Email.Headers
import Cctf.Email.CommandLines
import Cctf.Email.ReplyLines
import Cctf.Scoring.LastGain
import Cctf.Email.Splitting
import Cctf.Api.Openapi
import Cctf.Email.Framing
import Cctf.Localization.Documents
import Cctf.Notifications.Recent
import Cctf.Library.Replacing
import Cctf.Instances.Rendering
import Cctf.Instances.Unique
import Cctf.Files.Inside
import Cctf.Api.Proxy
import Cctf.Solving.Trace
import Cctf.Repos.Pg.RoundTrips
import Cctf.Repos.Pg.Submissions
import Cctf.Library.Paths
import Cctf.Library.Multimap
import Cctf.Api.Extract
import Cctf.Api.Server
import Cctf.Library.Guarantees
import Cctf.Services.Login
import Cctf.Api.Router
import Cctf.Access.Records
import Cctf.Library.Knowledge
import Cctf.Access.Calls
import Cctf.Access.Promises
import Cctf.Access.Methods
import Cctf.Access.Handlers
import Cctf.Access.Safety
import Cctf.Access.Tokens
import Cctf.Access.Accounts
import Cctf.Access.Throttle
import Cctf.Access.Areas
import Cctf.Access.Uploads

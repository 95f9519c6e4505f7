import DfStudy.Ownership
import DfStudy.GamePublication
import DfStudy.GameRestart
import DfStudy.MuteStatus
import DfStudy.AttackLaunch
import DfStudy.CreateAtomicity
import DfStudy.Registry
import DfStudy.Recordings
import DfStudy.RecordingQueue
import DfStudy.PacketData
import DfStudy.Voice
import DfStudy.ShadowMute
import DfStudy.SpoofedAudio
import DfStudy.SessionUniqueness
import DfStudy.LoadedGame
import DfStudy.AnswerPayloads
import DfStudy.SaveOrder
import DfStudy.SessionRemoval
import DfStudy.Lifetimes
import DfStudy.Presence
import DfStudy.MamsParser
import DfStudy.Playback
import DfStudy.DamagedRecordings
import DfStudy.AudioBounds
import DfStudy.Connections
import DfStudy.MumbleCli
import DfStudy.RecordPaths
import DfStudy.GameStart
import DfStudy.AnswerFinality
import DfStudy.AttackRestart
import DfStudy.SessionRestart
import DfStudy.Quiescence
import DfStudy.Mentions
import DfStudy.CreationOrder
import DfStudy.GameSequence
import DfStudy.AudioArithmetic
import DfStudy.SampleOrder
import DfStudy.AudioPacing
import DfStudy.SessionPaths
import DfStudy.ShellCommands
import DfStudy.Listeners
import DfStudy.GameSnapshots
import DfStudy.GameTimeline
import DfStudy.CreatePayloads
import DfStudy.Support.Guards
import DfStudy.GameSchema
import DfStudy.ScoreScreens
import DfStudy.ButtonScreens
import DfStudy.Support.Unicode
import DfStudy.Support.JsonText
import DfStudy.Support.UriText
import DfStudy.HashRoutes
import DfStudy.RouteWeights
import DfStudy.RouteRoundTrip
import DfStudy.AdminMirror
import DfStudy.DockerRequests
import DfStudy.GameHandover
import DfStudy.SessionGates
import DfStudy.SessionLoading
import DfStudy.SessionUnderway
import DfStudy.SessionMaking
import DfStudy.SessionProgress
import DfStudy.SessionCourse
import DfStudy.Acquaintance
import DfStudy.GameCrew
import DfStudy.Isolation
import DfStudy.GameDuration
import DfStudy.RecordingDirs

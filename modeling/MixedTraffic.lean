import MixedTraffic.Output.Recorder
import MixedTraffic.Run.Journal
import MixedTraffic.Main
import MixedTraffic.Proofs.Attempt
import MixedTraffic.Proofs.Road.LinkQueue
import MixedTraffic.Proofs.Road.Fleet
import MixedTraffic.Proofs.Population
import MixedTraffic.Proofs.Run.Happening
import MixedTraffic.Proofs.Run.Course
import MixedTraffic.Proofs.Run.History
import MixedTraffic.Proofs.Run.Frame
import MixedTraffic.Proofs.Road.Storage
import MixedTraffic.Proofs.Run.Moment
import MixedTraffic.Proofs.Run.Accounts
import MixedTraffic.Proofs.Calendar
import MixedTraffic.Proofs.Run.Whereabouts
import MixedTraffic.Proofs.Run.Journey
import MixedTraffic.Proofs.Run.Census
import MixedTraffic.Proofs.Network
import MixedTraffic.Proofs.Road.Mirror
import MixedTraffic.Proofs.Road.Plan
import MixedTraffic.Proofs.Route
import MixedTraffic.Proofs.Run.Orders
import MixedTraffic.Proofs.Run.Timetable
import MixedTraffic.Proofs.Run.Itinerary
import MixedTraffic.Proofs.Run.Stream
import MixedTraffic.Proofs.Road.Promise
import MixedTraffic.Proofs.Run.Progress
import MixedTraffic.Proofs.Road.Resolution
import MixedTraffic.Proofs.Run.Departure
import MixedTraffic.Proofs.Run.Preparation
import MixedTraffic.Proofs.Run.Shortage
import MixedTraffic.Proofs.Run.Success
import MixedTraffic.Proofs.Run.Boarding
import MixedTraffic.Proofs.Run.Squeeze
import MixedTraffic.Proofs.Run.Breakdown
import MixedTraffic.Proofs.Run.Continuation
import MixedTraffic.Proofs.Road.Service
import MixedTraffic.Proofs.Road.Line
import MixedTraffic.Proofs.Run.Effect
import MixedTraffic.Proofs.Run.Passage
import MixedTraffic.Proofs.Run.Precedence
import MixedTraffic.Proofs.Run.Succession
import MixedTraffic.Proofs.Run.Holdup
import MixedTraffic.Proofs.Run.Removal
import MixedTraffic.Proofs.Road.Meter
import MixedTraffic.Proofs.Run.Flow
import MixedTraffic.Proofs.Run.Exchange
import MixedTraffic.Proofs.Run.Barrier
import MixedTraffic.Proofs.Amendment
import MixedTraffic.Proofs.Road.Terms
import MixedTraffic.Proofs.Run.Conditions
import MixedTraffic.Proofs.Agenda
import MixedTraffic.Proofs.Run.Punctuality
import MixedTraffic.Proofs.Run.Priority
import MixedTraffic.Proofs.Flow.Overtakes
import MixedTraffic.Proofs.Flow.Presence
import MixedTraffic.Proofs.Run.Audience
import MixedTraffic.Proofs.Run.Arrivals
import MixedTraffic.Proofs.Run.Tracking
import MixedTraffic.Proofs.Run.Instruments
import MixedTraffic.Proofs.Run.Speed
import MixedTraffic.Proofs.Run.Overtaking
import MixedTraffic.Proofs.Agreement
import MixedTraffic.Proofs.Run.Company
import MixedTraffic.Proofs.Run.Accord
import MixedTraffic.Proofs.Run.Spectators
import MixedTraffic.Proofs.Run.Causality
import MixedTraffic.Proofs.Sweep.Point
import MixedTraffic.Proofs.Sweep.Circuit
import MixedTraffic.Proofs.Flow.Permanence
import MixedTraffic.Proofs.Sweep.Validity
import MixedTraffic.Proofs.Flow.Stays
import MixedTraffic.Proofs.Flow.Lines
import MixedTraffic.Proofs.Flow.Counting
import MixedTraffic.Proofs.Flow.Bins
import MixedTraffic.Proofs.Flow.Streaks
import MixedTraffic.Proofs.Flow.Freezing
import MixedTraffic.Proofs.Flow.Survey
import MixedTraffic.Proofs.Flow.Samples
import MixedTraffic.Proofs.Flow.Measurement
import MixedTraffic.Proofs.Run.Ample
import MixedTraffic.Proofs.Run.Rush
import MixedTraffic.Proofs.Sweep.Load
import MixedTraffic.Proofs.Sweep.Buffers
import MixedTraffic.Proofs.Schedule
import MixedTraffic.Proofs.Road.Ledger
import MixedTraffic.Proofs.Road.Hearing
import MixedTraffic.Proofs.Road.Contention
import MixedTraffic.Proofs.Road.Readiness
import MixedTraffic.Proofs.Run.Ending
import MixedTraffic.Proofs.Drafting
import MixedTraffic.Proofs.Sweep.Mix
import MixedTraffic.Proofs.Sweep.Odometer
import MixedTraffic.Proofs.Sweep.Grid
import MixedTraffic.Proofs.Road.Savings
import MixedTraffic.Proofs.Run.Instant
import MixedTraffic.Proofs.Run.Savings
import MixedTraffic.Proofs.Trip
import MixedTraffic.Proofs.Delimited
import MixedTraffic.Proofs.DiagramTable

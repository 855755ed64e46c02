import AirQuality.Aggregation
import AirQuality.CanonicalKey
import AirQuality.Collection
import AirQuality.Contribution
import AirQuality.Coordinate
import AirQuality.Decimal.Binary64
import AirQuality.Decimal.Layout
import AirQuality.Decimal.Number
import AirQuality.Decimal.Numeral
import AirQuality.Decimal.Power
import AirQuality.Decimal.Rounded
import AirQuality.Decimal.Shortest
import AirQuality.Failure
import AirQuality.Fetch
import AirQuality.Fetch.Desk
import AirQuality.Fetch.Exchange
import AirQuality.Fetch.Headers
import AirQuality.Fetch.Session
import AirQuality.Fetch.Token
import AirQuality.Fleet
import AirQuality.Json.Access
import AirQuality.Json.Decode
import AirQuality.Json.Display
import AirQuality.Json.Encode
import AirQuality.Json.Loose
import AirQuality.Json.Order
import AirQuality.Json.Value
import AirQuality.Log
import AirQuality.Measurement
import AirQuality.Named
import AirQuality.Parameter
import AirQuality.Plan
import AirQuality.Proofs.Aggregation
import AirQuality.Proofs.Aggregation.Cancellation
import AirQuality.Proofs.Collection
import AirQuality.Proofs.Collection.Calls
import AirQuality.Proofs.Collection.Cancellation
import AirQuality.Proofs.Collection.Failures
import AirQuality.Proofs.Decimal.Binary64
import AirQuality.Proofs.Decimal.Numeral
import AirQuality.Proofs.Fetch.Supply
import AirQuality.Proofs.Measurement
import AirQuality.Proofs.OpenAq.AllPages
import AirQuality.Proofs.OpenAq.NewestMeasurements
import AirQuality.Proofs.OpenAq.NewestPages
import AirQuality.Proofs.OpenAq.Pages
import AirQuality.Proofs.Outcome
import AirQuality.Proofs.Plan
import AirQuality.Proofs.Reading.Column
import AirQuality.Proofs.Reading.Newest
import AirQuality.Proofs.Region
import AirQuality.Proofs.Stage
import AirQuality.Proofs.Summary
import AirQuality.Reading
import AirQuality.Reading.Column
import AirQuality.Region
import AirQuality.Region.File
import AirQuality.Registry
import AirQuality.Report
import AirQuality.Service
import AirQuality.Settings
import AirQuality.Source
import AirQuality.Source.Gios
import AirQuality.Source.OpenAq
import AirQuality.Source.OpenMeteo
import AirQuality.Source.Provider
import AirQuality.Source.Script
import AirQuality.Station
import AirQuality.Store
import AirQuality.Store.Record
import AirQuality.Store.Rows
import AirQuality.Store.Snapshot
import AirQuality.Store.Value
import AirQuality.Summary
import AirQuality.Summary.Statistics
import AirQuality.Table
import AirQuality.Table.Order
import AirQuality.Table.Transform
import AirQuality.Text.Blank
import AirQuality.Text.Case
import AirQuality.Text.Case.Context
import AirQuality.Text.Case.LowerTable
import AirQuality.Text.Case.Run
import AirQuality.Text.Case.UpperTable
import AirQuality.Text.Digit
import AirQuality.Text.Printable
import AirQuality.Text.Quoted
import AirQuality.Text.Ranges
import AirQuality.Text.Search
import AirQuality.Text.Utf8
import AirQuality.TextFile
import AirQuality.Time.Calendar
import AirQuality.Time.Moment
import AirQuality.Time.Moment.Reader
import AirQuality.Time.Span
import AirQuality.Time.Stamp
import AirQuality.Watched
import AirQuality.Proofs.Fetch.Attempt
import AirQuality.Proofs.Fetch.Trace
import AirQuality.Proofs.Fetch.Retry
import AirQuality.Proofs.Fetch.Desk
import AirQuality.Proofs.Fetch.ExactTime
import AirQuality.Proofs.Fetch.Pace
import AirQuality.Proofs.Fetch.Interruption
import AirQuality.Proofs.Plan.Ensures
import AirQuality.Proofs.Reading.Fault
import AirQuality.Proofs.Guard
import AirQuality.Proofs.Guard.Gios
import AirQuality.Proofs.Guard.OpenAq
import AirQuality.Proofs.Guard.OpenMeteo
import AirQuality.Proofs.Guard.Providers
import AirQuality.Proofs.Fetch.Token
import AirQuality.Proofs.Fetch.Heeding
import AirQuality.Proofs.Extremes
import AirQuality.Proofs.Summary.Statistics
import AirQuality.Proofs.Summary.Keys
import AirQuality.Proofs.Summary.Groups
import AirQuality.Proofs.Summary.Merge
import AirQuality.Proofs.Aggregation.Order
import AirQuality.Proofs.Fetch.Stateless
import AirQuality.Proofs.Resolution
import AirQuality.Proofs.Region.Globe
import AirQuality.Proofs.Aggregation.Unusable
import AirQuality.Proofs.Reading.Context
import AirQuality.Proofs.Reading.Insertion
import AirQuality.Proofs.Reading.Selection
import AirQuality.Proofs.Reading.Tightening
import AirQuality.Proofs.Reading.RoundTrip
import AirQuality.Proofs.Plan.Trace
import AirQuality.Proofs.Plan.Settled
import AirQuality.Proofs.Reading.Regular
import AirQuality.Proofs.LiveFirst
import AirQuality.Proofs.LiveFirst.Gios
import AirQuality.Proofs.LiveFirst.OpenAq
import AirQuality.Proofs.LiveFirst.OpenMeteo
import AirQuality.Proofs.LiveFirst.Providers
import AirQuality.Proofs.Time.Calendar
import AirQuality.Proofs.Time.Written
import AirQuality.Proofs.Answers
import AirQuality.Proofs.Store.Key
import AirQuality.Proofs.Store.Rows
import AirQuality.Proofs.Store.Record
import AirQuality.Proofs.Store.Identity
import AirQuality.Proofs.Store.Account
import AirQuality.Proofs.Store.Plain
import AirQuality.Proofs.Store.Snapshot
import AirQuality.Proofs.Store.Purge
import AirQuality.Proofs.Store.Links
import AirQuality.Proofs.Decimal.Rounding
import AirQuality.Proofs.Decimal.Arithmetic
import AirQuality.Proofs.Decimal.Order
import AirQuality.Proofs.Time.Span
import AirQuality.Proofs.Recency
import AirQuality.Proofs.Store.Retention
import AirQuality.Proofs.Region.Names
import AirQuality.Proofs.Time.Stamp
import AirQuality.Proofs.Report
import AirQuality.Proofs.Store.Concord
import AirQuality.Proofs.Registry
import AirQuality.Proofs.Service
import AirQuality.Proofs.OpenAq.FewestPages
import AirQuality.Proofs.Decimal.Layout
import AirQuality.Proofs.Time.Fraction
import AirQuality.Proofs.Plan.Fetched
import AirQuality.Proofs.Paging
import AirQuality.Proofs.Paging.Gios
import AirQuality.Proofs.Paging.OpenAq
import AirQuality.Proofs.Paging.Stations
import AirQuality.Proofs.Reading.Forecast
import AirQuality.Proofs.OpenMeteo.Hourly
import AirQuality.Proofs.Store.Upsert
import AirQuality.Proofs.TextFile
import AirQuality.Proofs.Decimal.Number
import AirQuality.Proofs.Region.File
import AirQuality.Proofs.OpenMeteo.Points
import AirQuality.Proofs.Region.Classification
import AirQuality.Proofs.Text.Case
import AirQuality.Proofs.CanonicalKey
import AirQuality.Proofs.Registry.History
import AirQuality.Proofs.Registry.Request
import AirQuality.Proofs.Reading.Table

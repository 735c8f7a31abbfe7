import Adcaas.Async.Prog
import Adcaas.Async.Script
import Adcaas.Async.Monitor
import Adcaas.Json
import Adcaas.Utils
import Adcaas.Adc.Model
import Adcaas.Adc.Calls
import Adcaas.Adc.StateCtrlr
import Adcaas.Adc.Create
import Adcaas.Adc.Answers
import Adcaas.Adc.Plain
import Adcaas.Adc.Lifecycle
import Adcaas.Adc.Reclaim
import Adcaas.Adc.ReclaimRun
import Adcaas.Adc.Removal
import Adcaas.Adc.Retry
import Adcaas.Adc.Building
import Adcaas.Adc.Rest
import Adcaas.Adc.Threads
import Adcaas.Async.System
import Adcaas.Adc.Exclusion
import Adcaas.Adc.LastWrite
import Adcaas.Async.Race
import Adcaas.Repository.Common
import Adcaas.Repository.LostUpdate
import Adcaas.Identity.Token
import Adcaas.Repository.Tenancy
import Adcaas.Models.EntityClass
import Adcaas.Repository.Db
import Adcaas.Controllers.Declaration
import Adcaas.Controllers.Resources
import Adcaas.Controllers.Requests
import Adcaas.Models.Properties
import Adcaas.Controllers.Loaded
import Adcaas.Async.Fallible
import Adcaas.Models.Parts
import Adcaas.Controllers.Closure
import Adcaas.Controllers.HangsOff
import Adcaas.Controllers.Translation
import Adcaas.Controllers.Served
import Adcaas.Controllers.Ownership
import Adcaas.Controllers.References
import Adcaas.Controllers.ReadBack
import Adcaas.Controllers.Appointed
import Adcaas.Controllers.Deployment
import Adcaas.Adc.Accounts
import Adcaas.Adc.Reload
import Adcaas.Controllers.Asked
import Adcaas.Controllers.Noninterference
import Adcaas.Adc.Ports
import Adcaas.Adc.Licence
import Adcaas.Adc.Trust
import Adcaas.Adc.Failures
import Adcaas.Adc.Diagnosis
import Adcaas.Adc.Onboarding
import Adcaas.Adc.SelfIps
import Adcaas.Controllers.ExtPort
import Adcaas.Controllers.Fallback
import Adcaas.Controllers.Chosen
import Adcaas.Controllers.Arrangement
import Adcaas.Async.Rounds
import Adcaas.Polling
import Adcaas.Timer
import Adcaas.Paths
import Adcaas.Searching
import Adcaas.Controllers.Binding
import Adcaas.Values
import Adcaas.Merging
import Adcaas.Services.BigIq
import Adcaas.Services.BigIp
import Adcaas.Identity.Endpoints
import Adcaas.Identity.AdminToken
import Adcaas.Async.Crowd
import Adcaas.Repository.Holdings
import Adcaas.Controllers.Apart
import Adcaas.Controllers.Partitions
import Adcaas.Identity.Sequence
import Adcaas.Async.Gaining
import Adcaas.Async.Implement
import Adcaas.Services.Rest
import Adcaas.Services.Managers
import Adcaas.Adc.Watching
import Adcaas.Adc.Supply
import Adcaas.Services.Evidence
import Adcaas.Services.EndToEnd
import Adcaas.Services.Wiring
import Adcaas.Async.Lasting
import Adcaas.Controllers.Links
import Adcaas.Controllers.Uploads

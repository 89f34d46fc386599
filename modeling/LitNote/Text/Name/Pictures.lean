import LitNote.Text.Name.Run

/-!
Names of game pieces, pictures and tags.
-/

namespace LitNote.Text.Name

def pictures : List Run :=
  [⟨0x1F000, ["aMAHJONG TILE EAST WINDcSOUTH WINDcWEST WINDcNORTH WINDcRED DRAGONcGREEN DRAGON",
    "cWHITE DRAGONcONE OF CHARACTERScTWO OF CHARACTERScTHREE OF CHARACTERScFOUR OF CHARACTERS",
    "cFIVE OF CHARACTERScSIX OF CHARACTERScSEVEN OF CHARACTERScEIGHT OF CHARACTERScNINE OF ",
    "CHARACTERScONE OF BAMBOOScTWO OF BAMBOOScTHREE OF BAMBOOScFOUR OF BAMBOOScFIVE OF BAMBOOS",
    "cSIX OF BAMBOOScSEVEN OF BAMBOOScEIGHT OF BAMBOOScNINE OF BAMBOOScONE OF CIRCLEScTWO OF ",
    "CIRCLEScTHREE OF CIRCLEScFOUR OF CIRCLEScFIVE OF CIRCLEScSIX OF CIRCLEScSEVEN OF CIRCLES",
    "cEIGHT OF CIRCLEScNINE OF CIRCLEScPLUMcORCHIDcBAMBOOcCHRYSANTHEMUMcSPRINGcSUMMERcAUTUMN",
    "cWINTERcJOKERcBACK"]⟩,
   ⟨0x1F030, ["aDOMINO TILE HORIZONTAL BACKcHORIZONTAL-00-00cHORIZONTAL-00-01cHORIZONTAL-00-02",
    "cHORIZONTAL-00-03cHORIZONTAL-00-04cHORIZONTAL-00-05cHORIZONTAL-00-06cHORIZONTAL-01-00",
    "cHORIZONTAL-01-01cHORIZONTAL-01-02cHORIZONTAL-01-03cHORIZONTAL-01-04cHORIZONTAL-01-05",
    "cHORIZONTAL-01-06cHORIZONTAL-02-00cHORIZONTAL-02-01cHORIZONTAL-02-02cHORIZONTAL-02-03",
    "cHORIZONTAL-02-04cHORIZONTAL-02-05cHORIZONTAL-02-06cHORIZONTAL-03-00cHORIZONTAL-03-01",
    "cHORIZONTAL-03-02cHORIZONTAL-03-03cHORIZONTAL-03-04cHORIZONTAL-03-05cHORIZONTAL-03-06",
    "cHORIZONTAL-04-00cHORIZONTAL-04-01cHORIZONTAL-04-02cHORIZONTAL-04-03cHORIZONTAL-04-04",
    "cHORIZONTAL-04-05cHORIZONTAL-04-06cHORIZONTAL-05-00cHORIZONTAL-05-01cHORIZONTAL-05-02",
    "cHORIZONTAL-05-03cHORIZONTAL-05-04cHORIZONTAL-05-05cHORIZONTAL-05-06cHORIZONTAL-06-00",
    "cHORIZONTAL-06-01cHORIZONTAL-06-02cHORIZONTAL-06-03cHORIZONTAL-06-04cHORIZONTAL-06-05",
    "cHORIZONTAL-06-06cVERTICAL BACKcVERTICAL-00-00cVERTICAL-00-01cVERTICAL-00-02",
    "cVERTICAL-00-03cVERTICAL-00-04cVERTICAL-00-05cVERTICAL-00-06cVERTICAL-01-00cVERTICAL-01-01",
    "cVERTICAL-01-02cVERTICAL-01-03cVERTICAL-01-04cVERTICAL-01-05cVERTICAL-01-06cVERTICAL-02-00",
    "cVERTICAL-02-01cVERTICAL-02-02cVERTICAL-02-03cVERTICAL-02-04cVERTICAL-02-05cVERTICAL-02-06",
    "cVERTICAL-03-00cVERTICAL-03-01cVERTICAL-03-02cVERTICAL-03-03cVERTICAL-03-04cVERTICAL-03-05",
    "cVERTICAL-03-06cVERTICAL-04-00cVERTICAL-04-01cVERTICAL-04-02cVERTICAL-04-03cVERTICAL-04-04",
    "cVERTICAL-04-05cVERTICAL-04-06cVERTICAL-05-00cVERTICAL-05-01cVERTICAL-05-02cVERTICAL-05-03",
    "cVERTICAL-05-04cVERTICAL-05-05cVERTICAL-05-06cVERTICAL-06-00cVERTICAL-06-01cVERTICAL-06-02",
    "cVERTICAL-06-03cVERTICAL-06-04cVERTICAL-06-05cVERTICAL-06-06"]⟩,
   ⟨0x1F0A0, ["aPLAYING CARD BACKcACE OF SPADEScTWO OF SPADEScTHREE OF SPADEScFOUR OF SPADES",
    "cFIVE OF SPADEScSIX OF SPADEScSEVEN OF SPADEScEIGHT OF SPADEScNINE OF SPADEScTEN OF SPADES",
    "cJACK OF SPADEScKNIGHT OF SPADEScQUEEN OF SPADEScKING OF SPADES"]⟩,
   ⟨0x1F0B1, ["aPLAYING CARD ACE OF HEARTScTWO OF HEARTScTHREE OF HEARTScFOUR OF HEARTScFIVE ",
    "OF HEARTScSIX OF HEARTScSEVEN OF HEARTScEIGHT OF HEARTScNINE OF HEARTScTEN OF HEARTScJACK ",
    "OF HEARTScKNIGHT OF HEARTScQUEEN OF HEARTScKING OF HEARTScRED JOKER"]⟩,
   ⟨0x1F0C1, ["aPLAYING CARD ACE OF DIAMONDScTWO OF DIAMONDScTHREE OF DIAMONDScFOUR OF ",
    "DIAMONDScFIVE OF DIAMONDScSIX OF DIAMONDScSEVEN OF DIAMONDScEIGHT OF DIAMONDScNINE OF ",
    "DIAMONDScTEN OF DIAMONDScJACK OF DIAMONDScKNIGHT OF DIAMONDScQUEEN OF DIAMONDScKING OF ",
    "DIAMONDScBLACK JOKER"]⟩,
   ⟨0x1F0D1, ["aPLAYING CARD ACE OF CLUBScTWO OF CLUBScTHREE OF CLUBScFOUR OF CLUBScFIVE OF ",
    "CLUBScSIX OF CLUBScSEVEN OF CLUBScEIGHT OF CLUBScNINE OF CLUBScTEN OF CLUBScJACK OF CLUBS",
    "cKNIGHT OF CLUBScQUEEN OF CLUBScKING OF CLUBScWHITE JOKERcFOOLcTRUMP-1cTRUMP-2cTRUMP-3",
    "cTRUMP-4cTRUMP-5cTRUMP-6cTRUMP-7cTRUMP-8cTRUMP-9cTRUMP-10cTRUMP-11cTRUMP-12cTRUMP-13",
    "cTRUMP-14cTRUMP-15cTRUMP-16cTRUMP-17cTRUMP-18cTRUMP-19cTRUMP-20cTRUMP-21"]⟩,
   ⟨0x1F100, ["aDIGIT ZERO FULL STOPcCOMMAbONE COMMAbTWO COMMAbTHREE COMMAbFOUR COMMAbFIVE ",
    "COMMAbSIX COMMAbSEVEN COMMAbEIGHT COMMAbNINE COMMAaDINGBAT CIRCLED SANS-SERIF DIGIT ZERO",
    "bNEGATIVE CIRCLED SANS-SERIF DIGIT ZEROaCIRCLED ZERO WITH SLASHbANTICLOCKWISE ARROW",
    "bDOLLAR SIGN WITH OVERLAID BACKSLASHaPARENTHESIZED LATIN CAPITAL LETTER AeBeCeDeEeFeGeHeI",
    "eJeKeLeMeNeOePeQeReSeTeUeVeWeXeYeZaTORTOISE SHELL BRACKETED LATIN CAPITAL LETTER S",
    "aCIRCLED ITALIC LATIN CAPITAL LETTER CfRbCDbWZaCOPYLEFT SYMBOLaSQUARED LATIN CAPITAL ",
    "LETTER AeBeCeDeEeFeGeHeIeJeKeLeMeNeOePeQeReSeTeUeVeWeXeYeZbHVbMVbSDbSSbPPVbWCaNEGATIVE ",
    "CIRCLED LATIN CAPITAL LETTER AfBfCfDfEfFfGfHfIfJfKfLfMfNfOfPfQfRfSfTfUfVfWfXfYfZaRAISED ",
    "MC SIGNbMD SIGNbMR SIGNaCIRCLED CCbC WITH OVERLAID BACKSLASHbHUMAN FIGUREaNEGATIVE ",
    "SQUARED LATIN CAPITAL LETTER AfBfCfDfEfFfGfHfIfJfKfLfMfNfOfPfQfRfSfTfUfVfWfXfYfZaCROSSED ",
    "NEGATIVE SQUARED LATIN CAPITAL LETTER PaNEGATIVE SQUARED ICcPAcSAcABcWCaSQUARE DJaSQUARED ",
    "CLbCOOLbFREEbIDbNEWbNGbOKbSOSbUP WITH EXCLAMATION MARKbVSbTHREE DbSECOND SCREENbTWO K",
    "bFOUR KbEIGHT KbFIVE POINT ONEbSEVEN POINT ONEbTWENTY-TWO POINT TWObSIXTY PbONE HUNDRED ",
    "TWENTY PbLATIN SMALL LETTER DbHCbHDRbHI-RESbLOSSLESSbSHVbUHDbVODaMASK WORK SYMBOL"]⟩,
   ⟨0x1F1E6, ["aREGIONAL INDICATOR SYMBOL LETTER AeBeCeDeEeFeGeHeIeJeKeLeMeNeOePeQeReSeTeUeVeW",
    "eXeYeZaSQUARE HIRAGANA HOKAaSQUARED KATAKANA KOKOcSA"]⟩,
   ⟨0x1F210, ["aSQUARED CJK UNIFIED IDEOGRAPH-624BdIDEOGRAPH-5B57dIDEOGRAPH-53CCbKATAKANA DE",
    "bCJK UNIFIED IDEOGRAPH-4E8CdIDEOGRAPH-591AdIDEOGRAPH-89E3dIDEOGRAPH-5929dIDEOGRAPH-4EA4",
    "dIDEOGRAPH-6620dIDEOGRAPH-7121dIDEOGRAPH-6599dIDEOGRAPH-524DdIDEOGRAPH-5F8CdIDEOGRAPH-518D",
    "dIDEOGRAPH-65B0dIDEOGRAPH-521DdIDEOGRAPH-7D42dIDEOGRAPH-751FdIDEOGRAPH-8CA9dIDEOGRAPH-58F0",
    "dIDEOGRAPH-5439dIDEOGRAPH-6F14dIDEOGRAPH-6295dIDEOGRAPH-6355dIDEOGRAPH-4E00dIDEOGRAPH-4E09",
    "dIDEOGRAPH-904AdIDEOGRAPH-5DE6dIDEOGRAPH-4E2DdIDEOGRAPH-53F3dIDEOGRAPH-6307dIDEOGRAPH-8D70",
    "dIDEOGRAPH-6253dIDEOGRAPH-7981dIDEOGRAPH-7A7AdIDEOGRAPH-5408dIDEOGRAPH-6E80dIDEOGRAPH-6709",
    "dIDEOGRAPH-6708dIDEOGRAPH-7533dIDEOGRAPH-5272dIDEOGRAPH-55B6dIDEOGRAPH-914D"]⟩,
   ⟨0x1F240, ["aTORTOISE SHELL BRACKETED CJK UNIFIED IDEOGRAPH-672CfIDEOGRAPH-4E09",
    "fIDEOGRAPH-4E8CfIDEOGRAPH-5B89fIDEOGRAPH-70B9fIDEOGRAPH-6253fIDEOGRAPH-76D7fIDEOGRAPH-52DD",
    "fIDEOGRAPH-6557"]⟩,
   ⟨0x1F250, ["aCIRCLED IDEOGRAPH ADVANTAGEcACCEPT"]⟩,
   ⟨0x1F260, ["aROUNDED SYMBOL FOR FUdLUdSHOUdXIdSHUANGXIdCAI"]⟩,
   ⟨0x1F300, ["aCYCLONEaFOGGYaCLOSED UMBRELLAaNIGHT WITH STARSaSUNRISE OVER MOUNTAINSb",
    "aCITYSCAPE AT DUSKaSUNSET OVER BUILDINGSaRAINBOWaBRIDGE AT NIGHTaWATER WAVEaVOLCANOaMILKY ",
    "WAYaEARTH GLOBE EUROPE-AFRICAcAMERICAScASIA-AUSTRALIAaGLOBE WITH MERIDIANSaNEW MOON SYMBOL",
    "aWAXING CRESCENT MOON SYMBOLaFIRST QUARTER MOON SYMBOLaWAXING GIBBOUS MOON SYMBOLaFULL ",
    "MOON SYMBOLaWANING GIBBOUS MOON SYMBOLaLAST QUARTER MOON SYMBOLaWANING CRESCENT MOON ",
    "SYMBOLaCRESCENT MOONaNEW MOON WITH FACEaFIRST QUARTER MOON WITH FACEaLAST QUARTER MOON ",
    "WITH FACEaFULL MOON WITH FACEaSUN WITH FACEaGLOWING STARaSHOOTING STARaTHERMOMETERaBLACK ",
    "DROPLETaWHITE SUNcWITH SMALL CLOUDcBEHIND CLOUDeWITH RAINaCLOUD WITH RAINcSNOWcLIGHTNING",
    "cTORNADOaFOGaWIND BLOWING FACEaHOT DOGaTACOaBURRITOaCHESTNUTaSEEDLINGaEVERGREEN TREE",
    "aDECIDUOUS TREEaPALM TREEaCACTUSaHOT PEPPERaTULIPaCHERRY BLOSSOMaROSEaHIBISCUSaSUNFLOWER",
    "aBLOSSOMaEAR OF MAIZEcRICEaHERBaFOUR LEAF CLOVERaMAPLE LEAFaFALLEN LEAFaLEAF FLUTTERING ",
    "IN WINDaMUSHROOMaTOMATOaAUBERGINEaGRAPESaMELONaWATERMELONaTANGERINEaLEMONaBANANAaPINEAPPLE",
    "aRED APPLEaGREEN APPLEaPEARaPEACHaCHERRIESaSTRAWBERRYaHAMBURGERaSLICE OF PIZZAaMEAT ON ",
    "BONEaPOULTRY LEGaRICE CRACKERbBALLaCOOKED RICEaCURRY AND RICEaSTEAMING BOWLaSPAGHETTI",
    "aBREADaFRENCH FRIESaROASTED SWEET POTATOaDANGOaODENaSUSHIaFRIED SHRIMPaFISH CAKE WITH ",
    "SWIRL DESIGNaSOFT ICE CREAMaSHAVED ICEaICE CREAMaDOUGHNUTaCOOKIEaCHOCOLATE BARaCANDY",
    "aLOLLIPOPaCUSTARDaHONEY POTaSHORTCAKEaBENTO BOXaPOT OF FOODaCOOKINGaFORK AND KNIFEaTEACUP ",
    "WITHOUT HANDLEaSAKE BOTTLE AND CUPaWINE GLASSaCOCKTAIL GLASSaTROPICAL DRINKaBEER MUG",
    "aCLINKING BEER MUGSaBABY BOTTLEaFORK AND KNIFE WITH PLATEaBOTTLE WITH POPPING CORKaPOPCORN",
    "aRIBBONaWRAPPED PRESENTaBIRTHDAY CAKEaJACK-O-LANTERNaCHRISTMAS TREEaFATHER CHRISTMAS",
    "aFIREWORKSaFIREWORK SPARKLERaBALLOONaPARTY POPPERaCONFETTI BALLaTANABATA TREEaCROSSED ",
    "FLAGSaPINE DECORATIONaJAPANESE DOLLSaCARP STREAMERaWIND CHIMEaMOON VIEWING CEREMONY",
    "aSCHOOL SATCHELaGRADUATION CAPaHEART WITH TIP ON THE LEFTaBOUQUET OF FLOWERSaMILITARY ",
    "MEDALaREMINDER RIBBONaMUSICAL KEYBOARD WITH JACKSaSTUDIO MICROPHONEaLEVEL SLIDERaCONTROL ",
    "KNOBSaBEAMED ASCENDING MUSICAL NOTESbDESCENDING MUSICAL NOTESaFILM FRAMESaADMISSION ",
    "TICKETSaCAROUSEL HORSEaFERRIS WHEELaROLLER COASTERaFISHING POLE AND FISHaMICROPHONEaMOVIE ",
    "CAMERAaCINEMAaHEADPHONEaARTIST PALETTEaTOP HATaCIRCUS TENTaTICKETaCLAPPER BOARD",
    "aPERFORMING ARTSaVIDEO GAMEaDIRECT HITaSLOT MACHINEaBILLIARDSaGAME DIEaBOWLINGaFLOWER ",
    "PLAYING CARDSaMUSICAL NOTEaMULTIPLE MUSICAL NOTESaSAXOPHONEaGUITARaMUSICAL KEYBOARD",
    "aTRUMPETaVIOLINaMUSICAL SCOREaRUNNING SHIRT WITH SASHaTENNIS RACQUET AND BALLaSKI AND SKI ",
    "BOOTaBASKETBALL AND HOOPaCHEQUERED FLAGaSNOWBOARDERaRUNNERaSURFERaSPORTS MEDALaTROPHY",
    "aHORSE RACINGaAMERICAN FOOTBALLaRUGBY FOOTBALLaSWIMMERaWEIGHT LIFTERaGOLFERaRACING ",
    "MOTORCYCLEbCARaCRICKET BAT AND BALLaVOLLEYBALLaFIELD HOCKEY STICK AND BALLaICE HOCKEY ",
    "STICK AND PUCKaTABLE TENNIS PADDLE AND BALLaSNOW CAPPED MOUNTAINaCAMPINGaBEACH WITH ",
    "UMBRELLAaBUILDING CONSTRUCTIONaHOUSE BUILDINGSaCITYSCAPEaDERELICT HOUSE BUILDING",
    "aCLASSICAL BUILDINGaDESERTbISLANDaNATIONAL PARKaSTADIUMaHOUSE BUILDINGbWITH GARDENaOFFICE ",
    "BUILDINGaJAPANESE POST OFFICEaEUROPEAN POST OFFICEaHOSPITALaBANKaAUTOMATED TELLER MACHINE",
    "aHOTELaLOVE HOTELaCONVENIENCE STOREaSCHOOLaDEPARTMENT STOREaFACTORYaIZAKAYA LANTERN",
    "aJAPANESE CASTLEaEUROPEAN CASTLEaWHITE PENNANTaBLACK PENNANTaWAVING WHITE FLAGbBLACK FLAG",
    "aROSETTEaBLACK ROSETTEaLABELaBADMINTON RACQUET AND SHUTTLECOCKaBOW AND ARROWaAMPHORA",
    "aEMOJI MODIFIER FITZPATRICK TYPE-1-2dTYPE-3dTYPE-4dTYPE-5dTYPE-6aRATaMOUSEaOXaWATER ",
    "BUFFALOaCOWaTIGERaLEOPARDaRABBITaCATaDRAGONaCROCODILEaWHALEaSNAILaSNAKEaHORSEaRAMaGOAT",
    "aSHEEPaMONKEYaROOSTERaCHICKENaDOGaPIGaBOARaELEPHANTaOCTOPUSaSPIRAL SHELLaBUGaANTaHONEYBEE",
    "aLADY BEETLEaFISHaTROPICAL FISHaBLOWFISHaTURTLEaHATCHING CHICKaBABY CHICKaFRONT-FACING ",
    "BABY CHICKaBIRDaPENGUINaKOALAaPOODLEaDROMEDARY CAMELaBACTRIAN CAMELaDOLPHINaMOUSE FACE",
    "aCOW FACEaTIGER FACEaRABBIT FACEaCAT FACEaDRAGON FACEaSPOUTING WHALEaHORSE FACEaMONKEY ",
    "FACEaDOG FACEaPIG FACEaFROG FACEaHAMSTER FACEaWOLF FACEaBEAR FACEaPANDA FACEaPIG NOSEaPAW ",
    "PRINTSaCHIPMUNKaEYESaEYEaEARaNOSEaMOUTHaTONGUEaWHITE UP POINTING BACKHAND INDEXbDOWN ",
    "POINTING BACKHAND INDEXbLEFT POINTING BACKHAND INDEXbRIGHT POINTING BACKHAND INDEXaFISTED ",
    "HAND SIGNaWAVING HAND SIGNaOK HAND SIGNaTHUMBS UP SIGNbDOWN SIGNaCLAPPING HANDS SIGNaOPEN ",
    "HANDS SIGNaCROWNaWOMANS HATaEYEGLASSESaNECKTIEaT-SHIRTaJEANSaDRESSaKIMONOaBIKINIaWOMANS ",
    "CLOTHESaPURSEaHANDBAGaPOUCHaMANS SHOEaATHLETIC SHOEaHIGH-HEELED SHOEaWOMANS SANDALbBOOTS",
    "aFOOTPRINTSaBUST IN SILHOUETTEaBUSTS IN SILHOUETTEaBOYaGIRLaMANaWOMANaFAMILYaMAN AND ",
    "WOMAN HOLDING HANDSaTWO MEN HOLDING HANDSbWOMEN HOLDING HANDSaPOLICE OFFICERaWOMAN WITH ",
    "BUNNY EARSaBRIDE WITH VEILaPERSON WITH BLOND HAIRaMAN WITH GUA PI MAOcTURBANaOLDER MAN",
    "bWOMANaBABYaCONSTRUCTION WORKERaPRINCESSaJAPANESE OGREbGOBLINaGHOSTaBABY ANGEL",
    "aEXTRATERRESTRIAL ALIENaALIEN MONSTERaIMPaSKULLaINFORMATION DESK PERSONaGUARDSMANaDANCER",
    "aLIPSTICKaNAIL POLISHaFACE MASSAGEaHAIRCUTaBARBER POLEaSYRINGEaPILLaKISS MARKaLOVE LETTER",
    "aRINGaGEM STONEaKISSaBOUQUETaCOUPLE WITH HEARTaWEDDINGaBEATING HEARTaBROKEN HEARTaTWO ",
    "HEARTSaSPARKLING HEARTaGROWING HEARTaHEART WITH ARROWaBLUE HEARTaGREEN HEARTaYELLOW HEART",
    "aPURPLE HEARTaHEART WITH RIBBONaREVOLVING HEARTSaHEART DECORATIONaDIAMOND SHAPE WITH A ",
    "DOT INSIDEaELECTRIC LIGHT BULBaANGER SYMBOLaBOMBaSLEEPING SYMBOLaCOLLISION SYMBOL",
    "aSPLASHING SWEAT SYMBOLaDROPLETaDASH SYMBOLaPILE OF POOaFLEXED BICEPSaDIZZY SYMBOLaSPEECH ",
    "BALLOONaTHOUGHT BALLOONaWHITE FLOWERaHUNDRED POINTS SYMBOLaMONEY BAGaCURRENCY EXCHANGE",
    "aHEAVY DOLLAR SIGNaCREDIT CARDaBANKNOTE WITH YEN SIGNcDOLLAR SIGNcEURO SIGNcPOUND SIGN",
    "aMONEY WITH WINGSaCHART WITH UPWARDS TREND AND YEN SIGNaSEATaPERSONAL COMPUTERaBRIEFCASE",
    "aMINIDISCaFLOPPY DISKaOPTICAL DISCaDVDaFILE FOLDERaOPEN FILE FOLDERaPAGE WITH CURLbFACING ",
    "UPaCALENDARaTEAR-OFF CALENDARaCARD INDEXaCHART WITH UPWARDS TRENDcDOWNWARDS TRENDaBAR ",
    "CHARTaCLIPBOARDaPUSHPINaROUND PUSHPINaPAPERCLIPaSTRAIGHT RULERaTRIANGULAR RULERaBOOKMARK ",
    "TABSaLEDGERaNOTEBOOKbWITH DECORATIVE COVERaCLOSED BOOKaOPEN BOOKaGREEN BOOKaBLUE BOOK",
    "aORANGE BOOKaBOOKSaNAME BADGEaSCROLLaMEMOaTELEPHONE RECEIVERaPAGERaFAX MACHINEaSATELLITE ",
    "ANTENNAaPUBLIC ADDRESS LOUDSPEAKERaCHEERING MEGAPHONEaOUTBOX TRAYaINBOX TRAYaPACKAGE",
    "aE-MAIL SYMBOLaINCOMING ENVELOPEaENVELOPE WITH DOWNWARDS ARROW ABOVEaCLOSED MAILBOX WITH ",
    "LOWERED FLAGdRAISED FLAGaOPEN MAILBOX WITH RAISED FLAGdLOWERED FLAGaPOSTBOXaPOSTAL HORN",
    "aNEWSPAPERaMOBILE PHONEcWITH RIGHTWARDS ARROW AT LEFTaVIBRATION MODEaMOBILE PHONE OFFaNO ",
    "MOBILE PHONESaANTENNA WITH BARSaCAMERAbWITH FLASHaVIDEO CAMERAaTELEVISIONaRADIO",
    "aVIDEOCASSETTEaFILM PROJECTORaPORTABLE STEREOaPRAYER BEADSaTWISTED RIGHTWARDS ARROWS",
    "aCLOCKWISE RIGHTWARDS AND LEFTWARDS OPEN CIRCLE ARROWShWITH CIRCLED ONE OVERLAYbDOWNWARDS ",
    "AND UPWARDS OPEN CIRCLE ARROWSaANTICLOCKWISE DOWNWARDS AND UPWARDS OPEN CIRCLE ARROWSaLOW ",
    "BRIGHTNESS SYMBOLaHIGH BRIGHTNESS SYMBOLaSPEAKER WITH CANCELLATION STROKEbbWITH ONE SOUND ",
    "WAVEcTHREE SOUND WAVESaBATTERYaELECTRIC PLUGaLEFT-POINTING MAGNIFYING GLASS",
    "aRIGHT-POINTING MAGNIFYING GLASSaLOCK WITH INK PENaCLOSED LOCK WITH KEYaKEYaLOCKaOPEN LOCK",
    "aBELLbWITH CANCELLATION STROKEaBOOKMARKaLINK SYMBOLaRADIO BUTTONaBACK WITH LEFTWARDS ",
    "ARROW ABOVEaEND WITH LEFTWARDS ARROW ABOVEaON WITH EXCLAMATION MARK WITH LEFT RIGHT ARROW ",
    "ABOVEaSOON WITH RIGHTWARDS ARROW ABOVEaTOP WITH UPWARDS ARROW ABOVEaNO ONE UNDER EIGHTEEN ",
    "SYMBOLaKEYCAP TENaINPUT SYMBOL FOR LATIN CAPITAL LETTERSeSMALL LETTERSdNUMBERSdSYMBOLS",
    "dLATIN LETTERSaFIREaELECTRIC TORCHaWRENCHaHAMMERaNUT AND BOLTaHOCHOaPISTOLaMICROSCOPE",
    "aTELESCOPEaCRYSTAL BALLaSIX POINTED STAR WITH MIDDLE DOTaJAPANESE SYMBOL FOR BEGINNER",
    "aTRIDENT EMBLEMaBLACK SQUARE BUTTONaWHITE SQUARE BUTTONaLARGE RED CIRCLEbBLUE CIRCLE",
    "bORANGE DIAMONDbBLUE DIAMONDaSMALL ORANGE DIAMONDbBLUE DIAMONDaUP-POINTING RED TRIANGLE",
    "aDOWN-POINTING RED TRIANGLEaUP-POINTING SMALL RED TRIANGLEaDOWN-POINTING SMALL RED ",
    "TRIANGLEaLOWER RIGHT SHADOWED WHITE CIRCLEaUPPER RIGHT SHADOWED WHITE CIRCLEaCIRCLED ",
    "CROSS POMMEEaCROSS POMMEE WITH HALF-CIRCLE BELOWcaNOTCHED LEFT SEMICIRCLE WITH THREE DOTS",
    "bRIGHT SEMICIRCLE WITH THREE DOTSaSYMBOL FOR MARKS CHAPTERaWHITE LATIN CROSSaHEAVY LATIN ",
    "CROSSaCELTIC CROSSaOM SYMBOLaDOVE OF PEACEaKAABAaMOSQUEaSYNAGOGUEaMENORAH WITH NINE ",
    "BRANCHESaBOWL OF HYGIEIAaCLOCK FACE ONE OCLOCKcTWO OCLOCKcTHREE OCLOCKcFOUR OCLOCKcFIVE ",
    "OCLOCKcSIX OCLOCKcSEVEN OCLOCKcEIGHT OCLOCKcNINE OCLOCKcTEN OCLOCKcELEVEN OCLOCKcTWELVE ",
    "OCLOCKcONE-THIRTYcTWO-THIRTYcTHREE-THIRTYcFOUR-THIRTYcFIVE-THIRTYcSIX-THIRTYcSEVEN-THIRTY",
    "cEIGHT-THIRTYcNINE-THIRTYcTEN-THIRTYcELEVEN-THIRTYcTWELVE-THIRTYaRIGHT SPEAKERcWITH ONE ",
    "SOUND WAVEdTHREE SOUND WAVESaBULLHORNbWITH SOUND WAVESaRINGING BELLaBOOKaCANDLE",
    "aMANTELPIECE CLOCKaBLACK SKULL AND CROSSBONESaNO PIRACYaHOLEaMAN IN BUSINESS SUIT ",
    "LEVITATINGaSLEUTH OR SPYaDARK SUNGLASSESaSPIDERbWEBaJOYSTICKaMAN DANCINGaLEFT HAND ",
    "TELEPHONE RECEIVERaTELEPHONE RECEIVER WITH PAGEaRIGHT HAND TELEPHONE RECEIVERaWHITE ",
    "TOUCHTONE TELEPHONEaBLACK TOUCHTONE TELEPHONEaTELEPHONE ON TOP OF MODEMaCLAMSHELL MOBILE ",
    "PHONEaBACK OF ENVELOPEaSTAMPED ENVELOPEaENVELOPE WITH LIGHTNINGaFLYING ENVELOPEaPEN OVER ",
    "STAMPED ENVELOPEaLINKED PAPERCLIPSaBLACK PUSHPINaLOWER LEFT PENCILcBALLPOINT PENcFOUNTAIN ",
    "PENcPAINTBRUSHcCRAYONaLEFT WRITING HANDaTURNED OK HAND SIGNaRAISED HAND WITH FINGERS ",
    "SPLAYEDaREVERSED RAISED HAND WITH FINGERS SPLAYEDbTHUMBS UP SIGNcDOWN SIGNbVICTORY HAND",
    "bHAND WITH MIDDLE FINGER EXTENDEDaRAISED HAND WITH PART BETWEEN MIDDLE AND RING FINGERS",
    "aWHITE DOWN POINTING LEFT HAND INDEXaSIDEWAYS WHITE LEFT POINTING INDEXcRIGHT POINTING ",
    "INDEXbBLACK LEFT POINTING INDEXcRIGHT POINTING INDEXaBLACK LEFT POINTING BACKHAND INDEX",
    "bRIGHT POINTING BACKHAND INDEXaSIDEWAYS WHITE UP POINTING INDEXcDOWN POINTING INDEXbBLACK ",
    "UP POINTING INDEXcDOWN POINTING INDEXaBLACK UP POINTING BACKHAND INDEXbDOWN POINTING ",
    "BACKHAND INDEXbHEARTaDESKTOP COMPUTERaKEYBOARD AND MOUSEaTHREE NETWORKED COMPUTERSaPRINTER",
    "aPOCKET CALCULATORaBLACK HARD SHELL FLOPPY DISKaWHITE HARD SHELL FLOPPY DISKaSOFT SHELL ",
    "FLOPPY DISKaTAPE CARTRIDGEaWIRED KEYBOARDaONE BUTTON MOUSEaTWO BUTTON MOUSEaTHREE BUTTON ",
    "MOUSEaTRACKBALLaOLD PERSONAL COMPUTERaHARD DISKaSCREENaPRINTER ICONaFAX ICONaOPTICAL DISC ",
    "ICONaDOCUMENT WITH TEXTdAND PICTUREcPICTUREaFRAME WITH PICTUREcTILEScAN XaBLACK FOLDER",
    "aFOLDERaOPEN FOLDERaCARD INDEX DIVIDERSbFILE BOXaFILE CABINETaEMPTY NOTEcPAGEcPADaNOTE",
    "bPAGEbPADaEMPTY DOCUMENTbPAGEbPAGESaDOCUMENTaPAGEaPAGESaWASTEBASKETaSPIRAL NOTE PAD",
    "bCALENDAR PADaDESKTOP WINDOWaMINIMIZEaMAXIMIZEaOVERLAPaCLOCKWISE RIGHT AND LEFT ",
    "SEMICIRCLE ARROWSaCANCELLATION XaINCREASE FONT SIZE SYMBOLaDECREASE FONT SIZE SYMBOL",
    "aCOMPRESSIONaOLD KEYaROLLED-UP NEWSPAPERaPAGE WITH CIRCLED TEXTaSTOCK CHARTaDAGGER KNIFE",
    "aLIPSaSPEAKING HEAD IN SILHOUETTEaTHREE RAYS ABOVEcBELOWcLEFTcRIGHTaLEFT SPEECH BUBBLE",
    "aRIGHT SPEECH BUBBLEaTWO SPEECH BUBBLESaTHREE SPEECH BUBBLESaLEFT THOUGHT BUBBLEaRIGHT ",
    "THOUGHT BUBBLEaLEFT ANGER BUBBLEaRIGHT ANGER BUBBLEaMOOD BUBBLEaLIGHTNING MOOD BUBBLEc",
    "aBALLOT BOX WITH BALLOTbSCRIPT XbBOX WITH SCRIPT XbBOLD SCRIPT XbBOX WITH BOLD SCRIPT X",
    "aLIGHT CHECK MARKaBALLOT BOX WITH BOLD CHECKaWORLD MAPaMOUNT FUJIaTOKYO TOWERaSTATUE OF ",
    "LIBERTYaSILHOUETTE OF JAPANaMOYAIaGRINNING FACEcWITH SMILING EYESaFACE WITH TEARS OF JOY",
    "aSMILING FACE WITH OPEN MOUTHfAND SMILING EYESgCOLD SWEATgTIGHTLY-CLOSED EYESdHALOdHORNS",
    "aWINKING FACEaSMILING FACE WITH SMILING EYESaFACE SAVOURING DELICIOUS FOODaRELIEVED FACE",
    "aSMILING FACE WITH HEART-SHAPED EYESdSUNGLASSESaSMIRKING FACEaNEUTRAL FACEaEXPRESSIONLESS ",
    "FACEaUNAMUSED FACEaFACE WITH COLD SWEATaPENSIVE FACEaCONFUSED FACEaCONFOUNDED FACE",
    "aKISSING FACEaFACE THROWING A KISSaKISSING FACE WITH SMILING EYESdCLOSED EYESaFACE WITH ",
    "STUCK-OUT TONGUEeAND WINKING EYEfTIGHTLY-CLOSED EYESaDISAPPOINTED FACEaWORRIED FACEaANGRY ",
    "FACEaPOUTING FACEaCRYING FACEaPERSEVERING FACEaFACE WITH LOOK OF TRIUMPHaDISAPPOINTED BUT ",
    "RELIEVED FACEaFROWNING FACE WITH OPEN MOUTHaANGUISHED FACEaFEARFUL FACEaWEARY FACEaSLEEPY ",
    "FACEaTIRED FACEaGRIMACING FACEaLOUDLY CRYING FACEaFACE WITH OPEN MOUTHaHUSHED FACEaFACE ",
    "WITH OPEN MOUTH AND COLD SWEATbSCREAMING IN FEARaASTONISHED FACEaFLUSHED FACEaSLEEPING ",
    "FACEaDIZZY FACEaFACE WITHOUT MOUTHbWITH MEDICAL MASKaGRINNING CAT FACE WITH SMILING EYES",
    "aCAT FACE WITH TEARS OF JOYaSMILING CAT FACE WITH OPEN MOUTHeHEART-SHAPED EYESaCAT FACE ",
    "WITH WRY SMILEaKISSING CAT FACE WITH CLOSED EYESaPOUTING CAT FACEaCRYING CAT FACEaWEARY ",
    "CAT FACEaSLIGHTLY FROWNING FACEbSMILING FACEaUPSIDE-DOWN FACEaFACE WITH ROLLING EYEScNO ",
    "GOOD GESTUREcOK GESTUREaPERSON BOWING DEEPLYaSEE-NO-EVIL MONKEYaHEAR-NO-EVIL MONKEY",
    "aSPEAK-NO-EVIL MONKEYaHAPPY PERSON RAISING ONE HANDaPERSON RAISING BOTH HANDS IN ",
    "CELEBRATIONbFROWNINGbWITH POUTING FACEcFOLDED HANDSaNORTH WEST POINTING LEAFaSOUTH WEST ",
    "POINTING LEAFaNORTH EAST POINTING LEAFaSOUTH EAST POINTING LEAFaTURNED NORTH WEST ",
    "POINTING LEAFbSOUTH WEST POINTING LEAFbNORTH EAST POINTING LEAFbSOUTH EAST POINTING LEAF",
    "aNORTH WEST POINTING VINE LEAFaSOUTH WEST POINTING VINE LEAFaNORTH EAST POINTING VINE LEAF",
    "aSOUTH EAST POINTING VINE LEAFaHEAVY NORTH WEST POINTING VINE LEAFbSOUTH WEST POINTING ",
    "VINE LEAFbNORTH EAST POINTING VINE LEAFbSOUTH EAST POINTING VINE LEAFaNORTH WEST POINTING ",
    "BUDaSOUTH WEST POINTING BUDaNORTH EAST POINTING BUDaSOUTH EAST POINTING BUDaHEAVY NORTH ",
    "WEST POINTING BUDbSOUTH WEST POINTING BUDbNORTH EAST POINTING BUDbSOUTH EAST POINTING BUD",
    "aHOLLOW QUILT SQUARE ORNAMENTeIN BLACK SQUAREaSOLID QUILT SQUARE ORNAMENTeIN BLACK SQUARE",
    "aLEFTWARDS ROCKETaUPWARDS ROCKETaRIGHTWARDS ROCKETaDOWNWARDS ROCKETaSCRIPT LIGATURE ET ",
    "ORNAMENTaHEAVY SCRIPT LIGATURE ET ORNAMENTaLIGATURE OPEN ET ORNAMENTaHEAVY LIGATURE OPEN ",
    "ET ORNAMENTbAMPERSAND ORNAMENTaSWASH AMPERSAND ORNAMENTaSANS-SERIF HEAVY DOUBLE TURNED ",
    "COMMA QUOTATION MARK ORNAMENTdCOMMA QUOTATION MARK ORNAMENTcLOW DOUBLE COMMA QUOTATION ",
    "MARK ORNAMENTaHEAVY INTERROBANG ORNAMENTaSANS-SERIF INTERROBANG ORNAMENTaHEAVY SANS-SERIF ",
    "INTERROBANG ORNAMENTaVERY HEAVY SOLIDUScREVERSE SOLIDUSaCHECKER BOARDaREVERSE CHECKER ",
    "BOARDaROCKETaHELICOPTERaSTEAM LOCOMOTIVEaRAILWAY CARaHIGH-SPEED TRAINcWITH BULLET NOSE",
    "aTRAINaMETROaLIGHT RAILaSTATIONaTRAMbCARaBUSaONCOMING BUSaTROLLEYBUSaBUS STOPaMINIBUS",
    "aAMBULANCEaFIRE ENGINEaPOLICE CARaONCOMING POLICE CARaTAXIaONCOMING TAXIaAUTOMOBILE",
    "aONCOMING AUTOMOBILEaRECREATIONAL VEHICLEaDELIVERY TRUCKaARTICULATED LORRYaTRACTOR",
    "aMONORAILaMOUNTAIN RAILWAYaSUSPENSION RAILWAYaMOUNTAIN CABLEWAYaAERIAL TRAMWAYaSHIP",
    "aROWBOATaSPEEDBOATaHORIZONTAL TRAFFIC LIGHTaVERTICAL TRAFFIC LIGHTaCONSTRUCTION SIGN",
    "aPOLICE CARS REVOLVING LIGHTaTRIANGULAR FLAG ON POSTaDOORaNO ENTRY SIGNaSMOKING SYMBOLaNO ",
    "SMOKING SYMBOLaPUT LITTER IN ITS PLACE SYMBOLaDO NOT LITTER SYMBOLaPOTABLE WATER SYMBOL",
    "aNON-POTABLE WATER SYMBOLaBICYCLEaNO BICYCLESaBICYCLISTaMOUNTAIN BICYCLISTaPEDESTRIANaNO ",
    "PEDESTRIANSaCHILDREN CROSSINGaMENS SYMBOLaWOMENS SYMBOLaRESTROOMaBABY SYMBOLaTOILETaWATER ",
    "CLOSETaSHOWERaBATHaBATHTUBaPASSPORT CONTROLaCUSTOMSaBAGGAGE CLAIMaLEFT LUGGAGEaTRIANGLE ",
    "WITH ROUNDED CORNERSaPROHIBITED SIGNaCIRCLED INFORMATION SOURCEaBOYS SYMBOLaGIRLS SYMBOL",
    "aCOUCH AND LAMPaSLEEPING ACCOMMODATIONaSHOPPING BAGSaBELLHOP BELLaBEDaPLACE OF WORSHIP",
    "aOCTAGONAL SIGNaSHOPPING TROLLEYaSTUPAaPAGODAaHINDU TEMPLEaHUTaELEVATOR"]⟩,
   ⟨0x1F6DD, ["aPLAYGROUND SLIDEaWHEELaRING BUOYaHAMMER AND WRENCHaSHIELDaOIL DRUMaMOTORWAY",
    "aRAILWAY TRACKaMOTOR BOATaUP-POINTING MILITARY AIRPLANEbAIRPLANEbSMALL AIRPLANEaSMALL ",
    "AIRPLANEaNORTHEAST-POINTING AIRPLANEaAIRPLANE DEPARTUREbARRIVING"]⟩,
   ⟨0x1F6F0, ["aSATELLITEaONCOMING FIRE ENGINEaDIESEL LOCOMOTIVEaPASSENGER SHIPaSCOOTERaMOTOR ",
    "SCOOTERaCANOEaSLEDaFLYING SAUCERaSKATEBOARDaAUTO RICKSHAWaPICKUP TRUCKaROLLER SKATE"]⟩,
   ⟨0x1F700, ["aALCHEMICAL SYMBOL FOR QUINTESSENCEdAIRdFIREdEARTHdWATERdAQUAFORTISdAQUA REGIA",
    "eREGIA-2eVITAEeVITAE-2dVINEGARdVINEGAR-2dVINEGAR-3dSULFURdPHILOSOPHERS SULFURdBLACK SULFUR",
    "dMERCURY SUBLIMATEeSUBLIMATE-2eSUBLIMATE-3dCINNABARdSALTdNITREdVITRIOLdVITRIOL-2dROCK SALT",
    "eSALT-2dGOLDdSILVERdIRON OREeORE-2dCROCUS OF IRONdREGULUS OF IRONdCOPPER OREdIRON-COPPER ",
    "OREdSUBLIMATE OF COPPERdCROCUS OF COPPERfCOPPER-2dCOPPER ANTIMONIATEdSALT OF COPPER ",
    "ANTIMONIATEdSUBLIMATE OF SALT OF COPPERdVERDIGRISdTIN OREdLEAD OREdANTIMONY OREdSUBLIMATE ",
    "OF ANTIMONYdSALT OF ANTIMONYdSUBLIMATE OF SALT OF ANTIMONYdVINEGAR OF ANTIMONYdREGULUS OF ",
    "ANTIMONYfANTIMONY-2edREGULUS-2dREGULUS-3dREGULUS-4dALKALIdALKALI-2dMARCASITEdSAL-AMMONIAC",
    "dARSENICdREALGARdREALGAR-2dAURIPIGMENTdBISMUTH OREdTARTARdTARTAR-2dQUICK LIMEdBORAX",
    "dBORAX-2dBORAX-3dALUMdOILdSPIRITdTINCTUREdGUMdWAXdPOWDERdCALXdTUTTYdCAPUT MORTUUMdSCEPTER ",
    "OF JOVEdCADUCEUSdTRIDENTdSTARRED TRIDENTdLODESTONEdSOAPdURINEdHORSE DUNGdASHESdPOT ASHES",
    "dBRICKdPOWDERED BRICKdAMALGAMdSTRATUM SUPER STRATUMfSTRATUM-2dSUBLIMATIONdPRECIPITATE",
    "dDISTILLdDISSOLVEdDISSOLVE-2dPURIFYdPUTREFACTIONdCRUCIBLEdCRUCIBLE-2dCRUCIBLE-3dCRUCIBLE-4",
    "dCRUCIBLE-5dALEMBICdBATH OF MARYfVAPOURSdRETORTdHOURdNIGHTdDAY-NIGHTdMONTHdHALF DRAMeOUNCE"]⟩,
   ⟨0x1F780, ["aBLACK LEFT-POINTING ISOSCELES RIGHT TRIANGLEbUP-POINTING ISOSCELES RIGHT ",
    "TRIANGLEbRIGHT-POINTING ISOSCELES RIGHT TRIANGLEbDOWN-POINTING ISOSCELES RIGHT TRIANGLE",
    "bSLIGHTLY SMALL CIRCLEaMEDIUM BOLD WHITE CIRCLEaBOLD WHITE CIRCLEaHEAVY WHITE CIRCLEaVERY ",
    "HEAVY WHITE CIRCLEaEXTREMELY HEAVY WHITE CIRCLEaWHITE CIRCLE CONTAINING BLACK SMALL CIRCLE",
    "aROUND TARGETaBLACK TINY SQUAREbSLIGHTLY SMALL SQUAREaLIGHT WHITE SQUAREaMEDIUM WHITE ",
    "SQUAREaBOLD WHITE SQUAREaHEAVY WHITE SQUAREaVERY HEAVY WHITE SQUAREaEXTREMELY HEAVY WHITE ",
    "SQUAREaWHITE SQUARE CONTAINING BLACK VERY SMALL SQUAREeMEDIUM SQUAREaSQUARE TARGETaBLACK ",
    "TINY DIAMONDbVERY SMALL DIAMONDbMEDIUM SMALL DIAMONDaWHITE DIAMOND CONTAINING BLACK VERY ",
    "SMALL DIAMONDeMEDIUM DIAMONDaDIAMOND TARGETaBLACK TINY LOZENGEbVERY SMALL LOZENGEbMEDIUM ",
    "SMALL LOZENGEaWHITE LOZENGE CONTAINING BLACK SMALL LOZENGEaTHIN GREEK CROSSaLIGHT GREEK ",
    "CROSSaMEDIUM GREEK CROSSaBOLD GREEK CROSSaVERY BOLD GREEK CROSSbHEAVY GREEK CROSS",
    "aEXTREMELY HEAVY GREEK CROSSaTHIN SALTIREaLIGHT SALTIREaMEDIUM SALTIREaBOLD SALTIREaHEAVY ",
    "SALTIREaVERY HEAVY SALTIREaEXTREMELY HEAVY SALTIREaLIGHT FIVE SPOKED ASTERISKaMEDIUM FIVE ",
    "SPOKED ASTERISKaBOLD FIVE SPOKED ASTERISKaHEAVY FIVE SPOKED ASTERISKaVERY HEAVY FIVE ",
    "SPOKED ASTERISKaEXTREMELY HEAVY FIVE SPOKED ASTERISKaLIGHT SIX SPOKED ASTERISKaMEDIUM SIX ",
    "SPOKED ASTERISKaBOLD SIX SPOKED ASTERISKaHEAVY SIX SPOKED ASTERISKaVERY HEAVY SIX SPOKED ",
    "ASTERISKaEXTREMELY HEAVY SIX SPOKED ASTERISKaLIGHT EIGHT SPOKED ASTERISKaMEDIUM EIGHT ",
    "SPOKED ASTERISKaBOLD EIGHT SPOKED ASTERISKaHEAVY EIGHT SPOKED ASTERISKaVERY HEAVY EIGHT ",
    "SPOKED ASTERISKaLIGHT THREE POINTED BLACK STARaMEDIUM THREE POINTED BLACK STARaTHREE ",
    "POINTED BLACK STARaMEDIUM THREE POINTED PINWHEEL STARaLIGHT FOUR POINTED BLACK STAR",
    "aMEDIUM FOUR POINTED BLACK STARaFOUR POINTED BLACK STARaMEDIUM FOUR POINTED PINWHEEL STAR",
    "aREVERSE LIGHT FOUR POINTED PINWHEEL STARaLIGHT FIVE POINTED BLACK STARaHEAVY FIVE ",
    "POINTED BLACK STARaMEDIUM SIX POINTED BLACK STARaHEAVY SIX POINTED BLACK STARaSIX POINTED ",
    "PINWHEEL STARaMEDIUM EIGHT POINTED BLACK STARaHEAVY EIGHT POINTED BLACK STARaVERY HEAVY ",
    "EIGHT POINTED BLACK STARaHEAVY EIGHT POINTED PINWHEEL STARaLIGHT TWELVE POINTED BLACK STAR",
    "aHEAVY TWELVE POINTED BLACK STARdPINWHEEL STARaCIRCLED TRIANGLEaNEGATIVE CIRCLED TRIANGLE",
    "aCIRCLED SQUAREaNEGATIVE CIRCLED SQUARE"]⟩,
   ⟨0x1F7E0, ["aLARGE ORANGE CIRCLEbYELLOW CIRCLEbGREEN CIRCLEbPURPLE CIRCLEbBROWN CIRCLEbRED ",
    "SQUAREbBLUE SQUAREbORANGE SQUAREbYELLOW SQUAREbGREEN SQUAREbPURPLE SQUAREbBROWN SQUARE"]⟩,
   ⟨0x1F7F0, ["aHEAVY EQUALS SIGN"]⟩,
   ⟨0x1F800, ["aLEFTWARDS ARROW WITH SMALL TRIANGLE ARROWHEADaUPWARDS ARROW WITH SMALL ",
    "TRIANGLE ARROWHEADaRIGHTWARDS ARROW WITH SMALL TRIANGLE ARROWHEADaDOWNWARDS ARROW WITH ",
    "SMALL TRIANGLE ARROWHEADaLEFTWARDS ARROW WITH MEDIUM TRIANGLE ARROWHEADaUPWARDS ARROW ",
    "WITH MEDIUM TRIANGLE ARROWHEADaRIGHTWARDS ARROW WITH MEDIUM TRIANGLE ARROWHEADaDOWNWARDS ",
    "ARROW WITH MEDIUM TRIANGLE ARROWHEADaLEFTWARDS ARROW WITH LARGE TRIANGLE ARROWHEAD",
    "aUPWARDS ARROW WITH LARGE TRIANGLE ARROWHEADaRIGHTWARDS ARROW WITH LARGE TRIANGLE ",
    "ARROWHEADaDOWNWARDS ARROW WITH LARGE TRIANGLE ARROWHEAD"]⟩,
   ⟨0x1F810, ["aLEFTWARDS ARROW WITH SMALL EQUILATERAL ARROWHEADaUPWARDS ARROW WITH SMALL ",
    "EQUILATERAL ARROWHEADaRIGHTWARDS ARROW WITH SMALL EQUILATERAL ARROWHEADaDOWNWARDS ARROW ",
    "WITH SMALL EQUILATERAL ARROWHEADaLEFTWARDS ARROW WITH EQUILATERAL ARROWHEADaUPWARDS ARROW ",
    "WITH EQUILATERAL ARROWHEADaRIGHTWARDS ARROW WITH EQUILATERAL ARROWHEADaDOWNWARDS ARROW ",
    "WITH EQUILATERAL ARROWHEADaHEAVY LEFTWARDS ARROW WITH EQUILATERAL ARROWHEADbUPWARDS ARROW ",
    "WITH EQUILATERAL ARROWHEADbRIGHTWARDS ARROW WITH EQUILATERAL ARROWHEADbDOWNWARDS ARROW ",
    "WITH EQUILATERAL ARROWHEADbLEFTWARDS ARROW WITH LARGE EQUILATERAL ARROWHEADbUPWARDS ARROW ",
    "WITH LARGE EQUILATERAL ARROWHEADbRIGHTWARDS ARROW WITH LARGE EQUILATERAL ARROWHEAD",
    "bDOWNWARDS ARROW WITH LARGE EQUILATERAL ARROWHEADaLEFTWARDS TRIANGLE-HEADED ARROW WITH ",
    "NARROW SHAFTaUPWARDS TRIANGLE-HEADED ARROW WITH NARROW SHAFTaRIGHTWARDS TRIANGLE-HEADED ",
    "ARROW WITH NARROW SHAFTaDOWNWARDS TRIANGLE-HEADED ARROW WITH NARROW SHAFTaLEFTWARDS ",
    "TRIANGLE-HEADED ARROW WITH MEDIUM SHAFTaUPWARDS TRIANGLE-HEADED ARROW WITH MEDIUM SHAFT",
    "aRIGHTWARDS TRIANGLE-HEADED ARROW WITH MEDIUM SHAFTaDOWNWARDS TRIANGLE-HEADED ARROW WITH ",
    "MEDIUM SHAFTaLEFTWARDS TRIANGLE-HEADED ARROW WITH BOLD SHAFTaUPWARDS TRIANGLE-HEADED ",
    "ARROW WITH BOLD SHAFTaRIGHTWARDS TRIANGLE-HEADED ARROW WITH BOLD SHAFTaDOWNWARDS ",
    "TRIANGLE-HEADED ARROW WITH BOLD SHAFTaLEFTWARDS TRIANGLE-HEADED ARROW WITH HEAVY SHAFT",
    "aUPWARDS TRIANGLE-HEADED ARROW WITH HEAVY SHAFTaRIGHTWARDS TRIANGLE-HEADED ARROW WITH ",
    "HEAVY SHAFTaDOWNWARDS TRIANGLE-HEADED ARROW WITH HEAVY SHAFTaLEFTWARDS TRIANGLE-HEADED ",
    "ARROW WITH VERY HEAVY SHAFTaUPWARDS TRIANGLE-HEADED ARROW WITH VERY HEAVY SHAFT",
    "aRIGHTWARDS TRIANGLE-HEADED ARROW WITH VERY HEAVY SHAFTaDOWNWARDS TRIANGLE-HEADED ARROW ",
    "WITH VERY HEAVY SHAFTaLEFTWARDS FINGER-POST ARROWaUPWARDS FINGER-POST ARROWaRIGHTWARDS ",
    "FINGER-POST ARROWaDOWNWARDS FINGER-POST ARROWaLEFTWARDS SQUARED ARROWaUPWARDS SQUARED ",
    "ARROWaRIGHTWARDS SQUARED ARROWaDOWNWARDS SQUARED ARROWaLEFTWARDS COMPRESSED ARROWaUPWARDS ",
    "COMPRESSED ARROWaRIGHTWARDS COMPRESSED ARROWaDOWNWARDS COMPRESSED ARROWaLEFTWARDS HEAVY ",
    "COMPRESSED ARROWaUPWARDS HEAVY COMPRESSED ARROWaRIGHTWARDS HEAVY COMPRESSED ARROW",
    "aDOWNWARDS HEAVY COMPRESSED ARROWaLEFTWARDS HEAVY ARROWaUPWARDS HEAVY ARROWaRIGHTWARDS ",
    "HEAVY ARROWaDOWNWARDS HEAVY ARROW"]⟩,
   ⟨0x1F850, ["aLEFTWARDS SANS-SERIF ARROWaUPWARDS SANS-SERIF ARROWaRIGHTWARDS SANS-SERIF ",
    "ARROWaDOWNWARDS SANS-SERIF ARROWaNORTH WEST SANS-SERIF ARROWbEAST SANS-SERIF ARROWaSOUTH ",
    "EAST SANS-SERIF ARROWbWEST SANS-SERIF ARROWaLEFT RIGHT SANS-SERIF ARROWaUP DOWN ",
    "SANS-SERIF ARROW"]⟩,
   ⟨0x1F860, ["aWIDE-HEADED LEFTWARDS LIGHT BARB ARROWbUPWARDS LIGHT BARB ARROWbRIGHTWARDS ",
    "LIGHT BARB ARROWbDOWNWARDS LIGHT BARB ARROWbNORTH WEST LIGHT BARB ARROWcEAST LIGHT BARB ",
    "ARROWbSOUTH EAST LIGHT BARB ARROWcWEST LIGHT BARB ARROWbLEFTWARDS BARB ARROWbUPWARDS BARB ",
    "ARROWbRIGHTWARDS BARB ARROWbDOWNWARDS BARB ARROWbNORTH WEST BARB ARROWcEAST BARB ARROW",
    "bSOUTH EAST BARB ARROWcWEST BARB ARROWbLEFTWARDS MEDIUM BARB ARROWbUPWARDS MEDIUM BARB ",
    "ARROWbRIGHTWARDS MEDIUM BARB ARROWbDOWNWARDS MEDIUM BARB ARROWbNORTH WEST MEDIUM BARB ",
    "ARROWcEAST MEDIUM BARB ARROWbSOUTH EAST MEDIUM BARB ARROWcWEST MEDIUM BARB ARROW",
    "bLEFTWARDS HEAVY BARB ARROWbUPWARDS HEAVY BARB ARROWbRIGHTWARDS HEAVY BARB ARROW",
    "bDOWNWARDS HEAVY BARB ARROWbNORTH WEST HEAVY BARB ARROWcEAST HEAVY BARB ARROWbSOUTH EAST ",
    "HEAVY BARB ARROWcWEST HEAVY BARB ARROWbLEFTWARDS VERY HEAVY BARB ARROWbUPWARDS VERY HEAVY ",
    "BARB ARROWbRIGHTWARDS VERY HEAVY BARB ARROWbDOWNWARDS VERY HEAVY BARB ARROWbNORTH WEST ",
    "VERY HEAVY BARB ARROWcEAST VERY HEAVY BARB ARROWbSOUTH EAST VERY HEAVY BARB ARROWcWEST ",
    "VERY HEAVY BARB ARROW"]⟩,
   ⟨0x1F890, ["aLEFTWARDS TRIANGLE ARROWHEADaUPWARDS TRIANGLE ARROWHEADaRIGHTWARDS TRIANGLE ",
    "ARROWHEADaDOWNWARDS TRIANGLE ARROWHEADaLEFTWARDS WHITE ARROW WITHIN TRIANGLE ARROWHEAD",
    "aUPWARDS WHITE ARROW WITHIN TRIANGLE ARROWHEADaRIGHTWARDS WHITE ARROW WITHIN TRIANGLE ",
    "ARROWHEADaDOWNWARDS WHITE ARROW WITHIN TRIANGLE ARROWHEADaLEFTWARDS ARROW WITH NOTCHED ",
    "TAILaUPWARDS ARROW WITH NOTCHED TAILaRIGHTWARDS ARROW WITH NOTCHED TAILaDOWNWARDS ARROW ",
    "WITH NOTCHED TAILaHEAVY ARROW SHAFT WIDTH ONEeTWO THIRDSeONE HALFfTHIRDaLEFTWARDS ",
    "BOTTOM-SHADED WHITE ARROWaRIGHTWARDS BOTTOM SHADED WHITE ARROWaLEFTWARDS TOP SHADED WHITE ",
    "ARROWaRIGHTWARDS TOP SHADED WHITE ARROWaLEFTWARDS LEFT-SHADED WHITE ARROWaRIGHTWARDS ",
    "RIGHT-SHADED WHITE ARROWaLEFTWARDS RIGHT-SHADED WHITE ARROWaRIGHTWARDS LEFT-SHADED WHITE ",
    "ARROWaLEFTWARDS BACK-TILTED SHADOWED WHITE ARROWaRIGHTWARDS BACK-TILTED SHADOWED WHITE ",
    "ARROWaLEFTWARDS FRONT-TILTED SHADOWED WHITE ARROWaRIGHTWARDS FRONT-TILTED SHADOWED WHITE ",
    "ARROWaWHITE ARROW SHAFT WIDTH ONEeTWO THIRDS"]⟩,
   ⟨0x1F8B0, ["aARROW POINTING UPWARDS THEN NORTH WESTcRIGHTWARDS THEN CURVING SOUTH WEST"]⟩,
   ⟨0x1F900, ["aCIRCLED CROSS FORMEE WITH FOUR DOTSeTWO DOTSdaLEFT HALF CIRCLE WITH FOUR DOTS",
    "eTHREE DOTSeTWO DOTSeDOTdaDOWNWARD FACING HOOKcNOTCHED HOOKcHOOK WITH DOTcNOTCHED HOOK ",
    "WITH DOTaPINCHED FINGERSaWHITE HEARTaBROWN HEARTaPINCHING HANDaZIPPER-MOUTH FACE",
    "aMONEY-MOUTH FACEaFACE WITH THERMOMETERaNERD FACEaTHINKING FACEaFACE WITH HEAD-BANDAGE",
    "aROBOT FACEaHUGGING FACEaSIGN OF THE HORNSaCALL ME HANDaRAISED BACK OF HANDaLEFT-FACING ",
    "FISTaRIGHT-FACING FISTaHANDSHAKEaHAND WITH INDEX AND MIDDLE FINGERS CROSSEDaI LOVE YOU ",
    "HAND SIGNaFACE WITH COWBOY HATaCLOWN FACEaNAUSEATED FACEaROLLING ON THE FLOOR LAUGHING",
    "aDROOLING FACEaLYING FACEaFACE PALMaSNEEZING FACEaFACE WITH ONE EYEBROW RAISEDaGRINNING ",
    "FACE WITH STAR EYESdONE LARGE AND ONE SMALL EYEaFACE WITH FINGER COVERING CLOSED LIPS",
    "aSERIOUS FACE WITH SYMBOLS COVERING MOUTHaSMILING FACE WITH SMILING EYES AND HAND ",
    "COVERING MOUTHaFACE WITH OPEN MOUTH VOMITINGaSHOCKED FACE WITH EXPLODING HEADaPREGNANT ",
    "WOMANaBREAST-FEEDINGaPALMS UP TOGETHERaSELFIEaPRINCEaMAN IN TUXEDOaMOTHER CHRISTMASaSHRUG",
    "aPERSON DOING CARTWHEELaJUGGLINGaFENCERaMODERN PENTATHLONaWRESTLERSaWATER POLOaHANDBALL",
    "aDIVING MASKaWILTED FLOWERaDRUM WITH DRUMSTICKSaCLINKING GLASSESaTUMBLER GLASSaSPOONaGOAL ",
    "NETaRIFLEaFIRST PLACE MEDALaSECOND PLACE MEDALaTHIRD PLACE MEDALaBOXING GLOVEaMARTIAL ",
    "ARTS UNIFORMaCURLING STONEaLACROSSE STICK AND BALLaSOFTBALLaFLYING DISCaCROISSANTaAVOCADO",
    "aCUCUMBERaBACONaPOTATOaCARROTaBAGUETTE BREADaGREEN SALADaSHALLOW PAN OF FOODaSTUFFED ",
    "FLATBREADaEGGaGLASS OF MILKaPEANUTSaKIWIFRUITaPANCAKESaDUMPLINGaFORTUNE COOKIEaTAKEOUT BOX",
    "aCHOPSTICKSaBOWL WITH SPOONaCUP WITH STRAWaCOCONUTaBROCCOLIaPIEaPRETZELaCUT OF MEAT",
    "aSANDWICHaCANNED FOODaLEAFY GREENaMANGOaMOON CAKEaBAGELaSMILING FACE WITH SMILING EYES ",
    "AND THREE HEARTSaYAWNING FACEaSMILING FACE WITH TEARaFACE WITH PARTY HORN AND PARTY HAT",
    "cUNEVEN EYES AND WAVY MOUTHaOVERHEATED FACEaFREEZING FACEaNINJAaDISGUISED FACEaFACE ",
    "HOLDING BACK TEARSbWITH PLEADING EYESaSARIaLAB COATaGOGGLESaHIKING BOOTaFLAT SHOEaCRAB",
    "aLION FACEaSCORPIONaTURKEYaUNICORN FACEaEAGLEaDUCKaBATaSHARKaOWLaFOX FACEaBUTTERFLYaDEER",
    "aGORILLAaLIZARDaRHINOCEROSaSHRIMPaSQUIDaGIRAFFE FACEaZEBRA FACEaHEDGEHOGaSAUROPODaT-REX",
    "aCRICKETaKANGAROOaLLAMAaPEACOCKaHIPPOPOTAMUSaPARROTaRACCOONaLOBSTERaMOSQUITOaMICROBE",
    "aBADGERaSWANaMAMMOTHaDODOaSLOTHaOTTERaORANGUTANaSKUNKaFLAMINGOaOYSTERaBEAVERaBISONaSEAL",
    "aGUIDE DOGaPROBING CANEaEMOJI COMPONENT RED HAIRcCURLY HAIRcBALDcWHITE HAIRaBONEaLEGaFOOT",
    "aTOOTHaSUPERHEROaSUPERVILLAINaSAFETY VESTaEAR WITH HEARING AIDaMOTORIZED WHEELCHAIR",
    "aMANUAL WHEELCHAIRaMECHANICAL ARMbLEGaCHEESE WEDGEaCUPCAKEaSALT SHAKERaBEVERAGE BOXaGARLIC",
    "aONIONaFALAFELaWAFFLEaBUTTERaMATE DRINKaICE CUBEaBUBBLE TEAaTROLLaSTANDING PERSON",
    "aKNEELING PERSONaDEAF PERSONaFACE WITH MONOCLEaADULTaCHILDaOLDER ADULTaBEARDED PERSON",
    "aPERSON WITH HEADSCARFbIN STEAMY ROOMbCLIMBINGbIN LOTUS POSITIONaMAGEaFAIRYaVAMPIRE",
    "aMERPERSONaELFaGENIEaZOMBIEaBRAINaORANGE HEARTaBILLED CAPaSCARFaGLOVESaCOATaSOCKSaRED ",
    "GIFT ENVELOPEaFIRECRACKERaJIGSAW PUZZLE PIECEaTEST TUBEaPETRI DISHaDNA DOUBLE HELIX",
    "aCOMPASSaABACUSaFIRE EXTINGUISHERaTOOLBOXaBRICKaMAGNETaLUGGAGEaLOTION BOTTLEaSPOOL OF ",
    "THREADaBALL OF YARNaSAFETY PINaTEDDY BEARaBROOMaBASKETaROLL OF PAPERaBAR OF SOAPaSPONGE",
    "aRECEIPTaNAZAR AMULETaNEUTRAL CHESS KINGcQUEENcROOKcBISHOPcKNIGHTcPAWNaWHITE CHESS KNIGHT ",
    "ROTATED FORTY-FIVE DEGREESaBLACK CHESS KNIGHT ROTATED FORTY-FIVE DEGREESaNEUTRAL CHESS ",
    "KNIGHT ROTATED FORTY-FIVE DEGREESaWHITE CHESS KING ROTATED NINETY DEGREEScQUEEN ROTATED ",
    "NINETY DEGREEScROOK ROTATED NINETY DEGREEScBISHOP ROTATED NINETY DEGREEScKNIGHT ROTATED ",
    "NINETY DEGREEScPAWN ROTATED NINETY DEGREESaBLACK CHESS KING ROTATED NINETY DEGREEScQUEEN ",
    "ROTATED NINETY DEGREEScROOK ROTATED NINETY DEGREEScBISHOP ROTATED NINETY DEGREEScKNIGHT ",
    "ROTATED NINETY DEGREEScPAWN ROTATED NINETY DEGREESaNEUTRAL CHESS KING ROTATED NINETY ",
    "DEGREEScQUEEN ROTATED NINETY DEGREEScROOK ROTATED NINETY DEGREEScBISHOP ROTATED NINETY ",
    "DEGREEScKNIGHT ROTATED NINETY DEGREEScPAWN ROTATED NINETY DEGREESaWHITE CHESS KNIGHT ",
    "ROTATED ONE HUNDRED THIRTY-FIVE DEGREESaBLACK CHESS KNIGHT ROTATED ONE HUNDRED ",
    "THIRTY-FIVE DEGREESaNEUTRAL CHESS KNIGHT ROTATED ONE HUNDRED THIRTY-FIVE DEGREESaWHITE ",
    "CHESS TURNED KINGdQUEENdROOKdBISHOPdKNIGHTdPAWNaBLACK CHESS TURNED KINGdQUEENdROOKdBISHOP",
    "dKNIGHTdPAWNaNEUTRAL CHESS TURNED KINGdQUEENdROOKdBISHOPdKNIGHTdPAWNaWHITE CHESS KNIGHT ",
    "ROTATED TWO HUNDRED TWENTY-FIVE DEGREESaBLACK CHESS KNIGHT ROTATED TWO HUNDRED ",
    "TWENTY-FIVE DEGREESaNEUTRAL CHESS KNIGHT ROTATED TWO HUNDRED TWENTY-FIVE DEGREESaWHITE ",
    "CHESS KING ROTATED TWO HUNDRED SEVENTY DEGREEScQUEEN ROTATED TWO HUNDRED SEVENTY DEGREES",
    "cROOK ROTATED TWO HUNDRED SEVENTY DEGREEScBISHOP ROTATED TWO HUNDRED SEVENTY DEGREES",
    "cKNIGHT ROTATED TWO HUNDRED SEVENTY DEGREEScPAWN ROTATED TWO HUNDRED SEVENTY DEGREES",
    "aBLACK CHESS KING ROTATED TWO HUNDRED SEVENTY DEGREEScQUEEN ROTATED TWO HUNDRED SEVENTY ",
    "DEGREEScROOK ROTATED TWO HUNDRED SEVENTY DEGREEScBISHOP ROTATED TWO HUNDRED SEVENTY ",
    "DEGREEScKNIGHT ROTATED TWO HUNDRED SEVENTY DEGREEScPAWN ROTATED TWO HUNDRED SEVENTY ",
    "DEGREESaNEUTRAL CHESS KING ROTATED TWO HUNDRED SEVENTY DEGREEScQUEEN ROTATED TWO HUNDRED ",
    "SEVENTY DEGREEScROOK ROTATED TWO HUNDRED SEVENTY DEGREEScBISHOP ROTATED TWO HUNDRED ",
    "SEVENTY DEGREEScKNIGHT ROTATED TWO HUNDRED SEVENTY DEGREEScPAWN ROTATED TWO HUNDRED ",
    "SEVENTY DEGREESaWHITE CHESS KNIGHT ROTATED THREE HUNDRED FIFTEEN DEGREESaBLACK CHESS ",
    "KNIGHT ROTATED THREE HUNDRED FIFTEEN DEGREESaNEUTRAL CHESS KNIGHT ROTATED THREE HUNDRED ",
    "FIFTEEN DEGREESaWHITE CHESS EQUIHOPPERaBLACK CHESS EQUIHOPPERaNEUTRAL CHESS EQUIHOPPER",
    "aWHITE CHESS EQUIHOPPER ROTATED NINETY DEGREESaBLACK CHESS EQUIHOPPER ROTATED NINETY ",
    "DEGREESaNEUTRAL CHESS EQUIHOPPER ROTATED NINETY DEGREESaWHITE CHESS KNIGHT-QUEEN",
    "cKNIGHT-ROOKcKNIGHT-BISHOPaBLACK CHESS KNIGHT-QUEENcKNIGHT-ROOKcKNIGHT-BISHOP"]⟩,
   ⟨0x1FA60, ["aXIANGQI RED GENERALcMANDARINcELEPHANTcHORSEcCHARIOTcCANNONcSOLDIERbBLACK ",
    "GENERALcMANDARINcELEPHANTcHORSEcCHARIOTcCANNONcSOLDIER"]⟩,
   ⟨0x1FA70, ["aBALLET SHOESaONE-PIECE SWIMSUITaBRIEFSaSHORTSaTHONG SANDAL"]⟩,
   ⟨0x1FA78, ["aDROP OF BLOODaADHESIVE BANDAGEaSTETHOSCOPEaX-RAYaCRUTCH"]⟩,
   ⟨0x1FA80, ["aYO-YOaKITEaPARACHUTEaBOOMERANGaMAGIC WANDaPINATAaNESTING DOLLS"]⟩,
   ⟨0x1FA90, ["aRINGED PLANETaCHAIRaRAZORaAXEaDIYA LAMPaBANJOaMILITARY HELMETaACCORDIONaLONG ",
    "DRUMaCOINaCARPENTRY SAWaSCREWDRIVERaLADDERaHOOKaMIRRORaWINDOWaPLUNGERaSEWING NEEDLEaKNOT",
    "aBUCKETaMOUSE TRAPaTOOTHBRUSHaHEADSTONEaPLACARDaROCKaMIRROR BALLaIDENTIFICATION CARDaLOW ",
    "BATTERYaHAMSA"]⟩,
   ⟨0x1FAB0, ["aFLYaWORMaBEETLEaCOCKROACHaPOTTED PLANTaWOODaFEATHERaLOTUSaCORALaEMPTY NEST",
    "aNEST WITH EGGS"]⟩,
   ⟨0x1FAC0, ["aANATOMICAL HEARTaLUNGSaPEOPLE HUGGINGaPREGNANT MANbPERSONaPERSON WITH CROWN"]⟩,
   ⟨0x1FAD0, ["aBLUEBERRIESaBELL PEPPERaOLIVEaFLATBREADaTAMALEaFONDUEaTEAPOTaPOURING LIQUID",
    "aBEANSaJAR"]⟩,
   ⟨0x1FAE0, ["aMELTING FACEaSALUTING FACEaFACE WITH OPEN EYES AND HAND OVER MOUTHcPEEKING EYE",
    "cDIAGONAL MOUTHaDOTTED LINE FACEaBITING LIPaBUBBLES"]⟩,
   ⟨0x1FAF0, ["aHAND WITH INDEX FINGER AND THUMB CROSSEDaRIGHTWARDS HANDaLEFTWARDS HANDaPALM ",
    "DOWN HANDbUP HANDaINDEX POINTING AT THE VIEWERaHEART HANDS"]⟩,
   ⟨0x1FB00, ["aBLOCK SEXTANT-1bSEXTANT-2bSEXTANT-12bSEXTANT-3bSEXTANT-13bSEXTANT-23",
    "bSEXTANT-123bSEXTANT-4bSEXTANT-14bSEXTANT-24bSEXTANT-124bSEXTANT-34bSEXTANT-134",
    "bSEXTANT-234bSEXTANT-1234bSEXTANT-5bSEXTANT-15bSEXTANT-25bSEXTANT-125bSEXTANT-35",
    "bSEXTANT-235bSEXTANT-1235bSEXTANT-45bSEXTANT-145bSEXTANT-245bSEXTANT-1245bSEXTANT-345",
    "bSEXTANT-1345bSEXTANT-2345bSEXTANT-12345bSEXTANT-6bSEXTANT-16bSEXTANT-26bSEXTANT-126",
    "bSEXTANT-36bSEXTANT-136bSEXTANT-236bSEXTANT-1236bSEXTANT-46bSEXTANT-146bSEXTANT-1246",
    "bSEXTANT-346bSEXTANT-1346bSEXTANT-2346bSEXTANT-12346bSEXTANT-56bSEXTANT-156bSEXTANT-256",
    "bSEXTANT-1256bSEXTANT-356bSEXTANT-1356bSEXTANT-2356bSEXTANT-12356bSEXTANT-456bSEXTANT-1456",
    "bSEXTANT-2456bSEXTANT-12456bSEXTANT-3456bSEXTANT-13456bSEXTANT-23456aLOWER LEFT BLOCK ",
    "DIAGONAL LOWER MIDDLE LEFT TO LOWER CENTREjRIGHTeUPPER MIDDLE LEFT TO LOWER CENTREjRIGHT",
    "fLEFT TO LOWER CENTREbRIGHT BLOCK DIAGONAL UPPER MIDDLE LEFT TO UPPER CENTREjRIGHTeLOWER ",
    "MIDDLE LEFT TO UPPER CENTREjRIGHTfLEFT TO UPPER CENTREfMIDDLE LEFT TO UPPER MIDDLE RIGHT",
    "fCENTRE TO LOWER MIDDLE RIGHTfLEFT TO LOWER MIDDLE RIGHTfCENTRE TO UPPER MIDDLE RIGHT",
    "fLEFT TO UPPER MIDDLE RIGHTfCENTRE TO UPPER RIGHTbLEFT BLOCK DIAGONAL UPPER CENTRE TO ",
    "UPPER MIDDLE RIGHTfLEFT TO UPPER MIDDLE RIGHTfCENTRE TO LOWER MIDDLE RIGHTfLEFT TO LOWER ",
    "MIDDLE RIGHTfCENTRE TO LOWER RIGHTfMIDDLE LEFT TO LOWER MIDDLE RIGHTaUPPER RIGHT BLOCK ",
    "DIAGONAL LOWER MIDDLE LEFT TO LOWER CENTREjRIGHTeUPPER MIDDLE LEFT TO LOWER CENTREjRIGHT",
    "fLEFT TO LOWER CENTREbLEFT BLOCK DIAGONAL UPPER MIDDLE LEFT TO UPPER CENTREjRIGHTeLOWER ",
    "MIDDLE LEFT TO UPPER CENTREjRIGHTfLEFT TO UPPER CENTREfMIDDLE LEFT TO UPPER MIDDLE RIGHT",
    "fCENTRE TO LOWER MIDDLE RIGHTfLEFT TO LOWER MIDDLE RIGHTfCENTRE TO UPPER MIDDLE RIGHT",
    "fLEFT TO UPPER MIDDLE RIGHTfCENTRE TO UPPER RIGHTbRIGHT BLOCK DIAGONAL UPPER CENTRE TO ",
    "UPPER MIDDLE RIGHTfLEFT TO UPPER MIDDLE RIGHTfCENTRE TO LOWER MIDDLE RIGHTfLEFT TO LOWER ",
    "MIDDLE RIGHTfCENTRE TO LOWER RIGHTfMIDDLE LEFT TO LOWER MIDDLE RIGHTbAND RIGHT AND LOWER ",
    "TRIANGULAR THREE QUARTERS BLOCKaLEFT AND LOWER AND RIGHT TRIANGULAR THREE QUARTERS BLOCK",
    "aUPPER AND LEFT AND LOWER TRIANGULAR THREE QUARTERS BLOCKaLEFT AND UPPER AND RIGHT ",
    "TRIANGULAR THREE QUARTERS BLOCKbTRIANGULAR ONE QUARTER BLOCKaUPPER TRIANGULAR ONE QUARTER ",
    "BLOCKaRIGHT TRIANGULAR ONE QUARTER BLOCKaLOWER TRIANGULAR ONE QUARTER BLOCKaVERTICAL ONE ",
    "EIGHTH BLOCK-2dBLOCK-3dBLOCK-4dBLOCK-5dBLOCK-6dBLOCK-7aHORIZONTAL ONE EIGHTH BLOCK-2",
    "dBLOCK-3dBLOCK-4dBLOCK-5dBLOCK-6dBLOCK-7aLEFT AND LOWER ONE EIGHTH BLOCKcUPPER ONE EIGHTH ",
    "BLOCKaRIGHT AND UPPER ONE EIGHTH BLOCKcLOWER ONE EIGHTH BLOCKaUPPER AND LOWER ONE EIGHTH ",
    "BLOCKaHORIZONTAL ONE EIGHTH BLOCK-1358aUPPER ONE QUARTER BLOCKbTHREE EIGHTHS BLOCKbFIVE ",
    "EIGHTHS BLOCKbTHREE QUARTERS BLOCKbSEVEN EIGHTHS BLOCKaRIGHT ONE QUARTER BLOCKbTHREE ",
    "EIGHTHS BLOCKbFIVE EIGHTHS BLOCKbTHREE QUARTERS BLOCKbSEVEN EIGHTHS BLOCKaLEFT HALF ",
    "MEDIUM SHADEaRIGHT HALF MEDIUM SHADEaUPPER HALF MEDIUM SHADEaLOWER HALF MEDIUM SHADE",
    "aINVERSE MEDIUM SHADEaUPPER HALF BLOCK AND LOWER HALF INVERSE MEDIUM SHADEcINVERSE MEDIUM ",
    "SHADE AND LOWER HALF BLOCK"]⟩,
   ⟨0x1FB94, ["aLEFT HALF INVERSE MEDIUM SHADE AND RIGHT HALF BLOCKaCHECKER BOARD FILL",
    "aINVERSE CHECKER BOARD FILLaHEAVY HORIZONTAL FILLaUPPER LEFT TO LOWER RIGHT FILLbRIGHT TO ",
    "LOWER LEFT FILLbAND LOWER TRIANGULAR HALF BLOCKaLEFT AND RIGHT TRIANGULAR HALF BLOCK",
    "aUPPER LEFT TRIANGULAR MEDIUM SHADEbRIGHT TRIANGULAR MEDIUM SHADEaLOWER RIGHT TRIANGULAR ",
    "MEDIUM SHADEbLEFT TRIANGULAR MEDIUM SHADEaBOX DRAWINGS LIGHT DIAGONAL UPPER CENTRE TO ",
    "MIDDLE LEFTiRIGHTeMIDDLE LEFT TO LOWER CENTREfRIGHT TO LOWER CENTREeUPPER CENTRE TO ",
    "MIDDLE LEFT TO LOWER CENTREiRIGHT TO LOWER CENTREeMIDDLE LEFT TO LOWER CENTRE TO MIDDLE ",
    "RIGHThUPPER CENTRE TO MIDDLE RIGHTeUPPER CENTRE TO MIDDLE LEFT AND MIDDLE RIGHT TO LOWER ",
    "CENTREiRIGHT AND MIDDLE LEFT TO LOWER CENTREjTO LOWER CENTRE TO MIDDLE LEFTiLEFT TO LOWER ",
    "CENTRE TO MIDDLE RIGHTeMIDDLE LEFT TO UPPER CENTRE TO MIDDLE RIGHT TO LOWER CENTREfRIGHT ",
    "TO UPPER CENTRE TO MIDDLE LEFT TO LOWER CENTREeDIAMONDdHORIZONTAL WITH VERTICAL STROKE",
    "aARROWHEAD-SHAPED POINTERaINVERSE CHECK MARKaLEFT HALF RUNNING MANaRIGHT HALF RUNNING MAN",
    "aINVERSE DOWNWARDS ARROW WITH TIP LEFTWARDSaLEFTWARDS ARROW AND UPPER AND LOWER ONE ",
    "EIGHTH BLOCKaRIGHTWARDS ARROW AND UPPER AND LOWER ONE EIGHTH BLOCKaDOWNWARDS ARROW AND ",
    "RIGHT ONE EIGHTH BLOCKaUPWARDS ARROW AND RIGHT ONE EIGHTH BLOCKaLEFT HALF FOLDERaRIGHT ",
    "HALF FOLDERaVOIDED GREEK CROSSaRIGHT OPEN SQUARED DOTaNEGATIVE DIAGONAL CROSScMIDDLE ",
    "RIGHT TO LOWER CENTREcDIAMONDaWHITE HEAVY SALTIRE WITH ROUNDED CORNERSaLEFT THIRD WHITE ",
    "RIGHT POINTING INDEXaMIDDLE THIRD WHITE RIGHT POINTING INDEXaRIGHT THIRD WHITE RIGHT ",
    "POINTING INDEXaNEGATIVE SQUARED QUESTION MARKaSTICK FIGUREcWITH ARMS RAISEDcLEANING LEFT",
    "dRIGHTcWITH DRESSaWHITE UP-POINTING CHEVRON"]⟩,
   ⟨0x1FBF0, ["aSEGMENTED DIGIT ZEROcONEcTWOcTHREEcFOURcFIVEcSIXcSEVENcEIGHTcNINE"]⟩,
   ⟨0xE0001, ["aLANGUAGE TAG"]⟩,
   ⟨0xE0020, ["aTAG SPACEbEXCLAMATION MARKbQUOTATION MARKbNUMBER SIGNbDOLLAR SIGNbPERCENT SIGN",
    "bAMPERSANDbAPOSTROPHEbLEFT PARENTHESISbRIGHT PARENTHESISbASTERISKbPLUS SIGNbCOMMA",
    "bHYPHEN-MINUSbFULL STOPbSOLIDUSbDIGIT ZEROcONEcTWOcTHREEcFOURcFIVEcSIXcSEVENcEIGHTcNINE",
    "bCOLONbSEMICOLONbLESS-THAN SIGNbEQUALS SIGNbGREATER-THAN SIGNbQUESTION MARKbCOMMERCIAL AT",
    "bLATIN CAPITAL LETTER AeBeCeDeEeFeGeHeIeJeKeLeMeNeOePeQeReSeTeUeVeWeXeYeZbLEFT SQUARE ",
    "BRACKETbREVERSE SOLIDUSbRIGHT SQUARE BRACKETbCIRCUMFLEX ACCENTbLOW LINEbGRAVE ACCENT",
    "bLATIN SMALL LETTER AeBeCeDeEeFeGeHeIeJeKeLeMeNeOePeQeReSeTeUeVeWeXeYeZbLEFT CURLY BRACKET",
    "bVERTICAL LINEbRIGHT CURLY BRACKETbTILDEaCANCEL TAG"]⟩,
   ⟨0xE0100, ["aVARIATION SELECTOR-17bSELECTOR-18bSELECTOR-19bSELECTOR-20bSELECTOR-21",
    "bSELECTOR-22bSELECTOR-23bSELECTOR-24bSELECTOR-25bSELECTOR-26bSELECTOR-27bSELECTOR-28",
    "bSELECTOR-29bSELECTOR-30bSELECTOR-31bSELECTOR-32bSELECTOR-33bSELECTOR-34bSELECTOR-35",
    "bSELECTOR-36bSELECTOR-37bSELECTOR-38bSELECTOR-39bSELECTOR-40bSELECTOR-41bSELECTOR-42",
    "bSELECTOR-43bSELECTOR-44bSELECTOR-45bSELECTOR-46bSELECTOR-47bSELECTOR-48bSELECTOR-49",
    "bSELECTOR-50bSELECTOR-51bSELECTOR-52bSELECTOR-53bSELECTOR-54bSELECTOR-55bSELECTOR-56",
    "bSELECTOR-57bSELECTOR-58bSELECTOR-59bSELECTOR-60bSELECTOR-61bSELECTOR-62bSELECTOR-63",
    "bSELECTOR-64bSELECTOR-65bSELECTOR-66bSELECTOR-67bSELECTOR-68bSELECTOR-69bSELECTOR-70",
    "bSELECTOR-71bSELECTOR-72bSELECTOR-73bSELECTOR-74bSELECTOR-75bSELECTOR-76bSELECTOR-77",
    "bSELECTOR-78bSELECTOR-79bSELECTOR-80bSELECTOR-81bSELECTOR-82bSELECTOR-83bSELECTOR-84",
    "bSELECTOR-85bSELECTOR-86bSELECTOR-87bSELECTOR-88bSELECTOR-89bSELECTOR-90bSELECTOR-91",
    "bSELECTOR-92bSELECTOR-93bSELECTOR-94bSELECTOR-95bSELECTOR-96bSELECTOR-97bSELECTOR-98",
    "bSELECTOR-99bSELECTOR-100bSELECTOR-101bSELECTOR-102bSELECTOR-103bSELECTOR-104bSELECTOR-105",
    "bSELECTOR-106bSELECTOR-107bSELECTOR-108bSELECTOR-109bSELECTOR-110bSELECTOR-111",
    "bSELECTOR-112bSELECTOR-113bSELECTOR-114bSELECTOR-115bSELECTOR-116bSELECTOR-117",
    "bSELECTOR-118bSELECTOR-119bSELECTOR-120bSELECTOR-121bSELECTOR-122bSELECTOR-123",
    "bSELECTOR-124bSELECTOR-125bSELECTOR-126bSELECTOR-127bSELECTOR-128bSELECTOR-129",
    "bSELECTOR-130bSELECTOR-131bSELECTOR-132bSELECTOR-133bSELECTOR-134bSELECTOR-135",
    "bSELECTOR-136bSELECTOR-137bSELECTOR-138bSELECTOR-139bSELECTOR-140bSELECTOR-141",
    "bSELECTOR-142bSELECTOR-143bSELECTOR-144bSELECTOR-145bSELECTOR-146bSELECTOR-147",
    "bSELECTOR-148bSELECTOR-149bSELECTOR-150bSELECTOR-151bSELECTOR-152bSELECTOR-153",
    "bSELECTOR-154bSELECTOR-155bSELECTOR-156bSELECTOR-157bSELECTOR-158bSELECTOR-159",
    "bSELECTOR-160bSELECTOR-161bSELECTOR-162bSELECTOR-163bSELECTOR-164bSELECTOR-165",
    "bSELECTOR-166bSELECTOR-167bSELECTOR-168bSELECTOR-169bSELECTOR-170bSELECTOR-171",
    "bSELECTOR-172bSELECTOR-173bSELECTOR-174bSELECTOR-175bSELECTOR-176bSELECTOR-177",
    "bSELECTOR-178bSELECTOR-179bSELECTOR-180bSELECTOR-181bSELECTOR-182bSELECTOR-183",
    "bSELECTOR-184bSELECTOR-185bSELECTOR-186bSELECTOR-187bSELECTOR-188bSELECTOR-189",
    "bSELECTOR-190bSELECTOR-191bSELECTOR-192bSELECTOR-193bSELECTOR-194bSELECTOR-195",
    "bSELECTOR-196bSELECTOR-197bSELECTOR-198bSELECTOR-199bSELECTOR-200bSELECTOR-201",
    "bSELECTOR-202bSELECTOR-203bSELECTOR-204bSELECTOR-205bSELECTOR-206bSELECTOR-207",
    "bSELECTOR-208bSELECTOR-209bSELECTOR-210bSELECTOR-211bSELECTOR-212bSELECTOR-213",
    "bSELECTOR-214bSELECTOR-215bSELECTOR-216bSELECTOR-217bSELECTOR-218bSELECTOR-219",
    "bSELECTOR-220bSELECTOR-221bSELECTOR-222bSELECTOR-223bSELECTOR-224bSELECTOR-225",
    "bSELECTOR-226bSELECTOR-227bSELECTOR-228bSELECTOR-229bSELECTOR-230bSELECTOR-231",
    "bSELECTOR-232bSELECTOR-233bSELECTOR-234bSELECTOR-235bSELECTOR-236bSELECTOR-237",
    "bSELECTOR-238bSELECTOR-239bSELECTOR-240bSELECTOR-241bSELECTOR-242bSELECTOR-243",
    "bSELECTOR-244bSELECTOR-245bSELECTOR-246bSELECTOR-247bSELECTOR-248bSELECTOR-249",
    "bSELECTOR-250bSELECTOR-251bSELECTOR-252bSELECTOR-253bSELECTOR-254bSELECTOR-255",
    "bSELECTOR-256"]⟩]

end LitNote.Text.Name
